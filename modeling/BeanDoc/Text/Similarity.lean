/-! How similar two words are. Equal characters at most half a word apart match, each at most once;
the measure is the mean of three shares: of matches in either word, and of matches in order. -/

namespace BeanDoc.Text

/-- Marks the first free character that equals `c` at an index between two bounds; the list starts
at index `j`. -/
def markFirst (c : Char) (lo hi : Nat) :
    (j : Nat) → List (Char × Bool) → Option (List (Char × Bool))
  | _, [] => none
  | j, (d, used) :: ds =>
    if hi < j then none
    else if lo ≤ j && c == d && !used then some ((d, true) :: ds)
    else (markFirst c lo hi (j + 1) ds).map ((d, used) :: ·)

def matchWords (range : Nat) : (i : Nat) → List Char → List (Char × Bool) →
    List Char × List (Char × Bool)
  | _, [], marked => ([], marked)
  | i, c :: cs, marked =>
    match markFirst c (i - range) (i + range) 0 marked with
    | none => matchWords range (i + 1) cs marked
    | some marked =>
      let (matched, marked) := matchWords range (i + 1) cs marked
      (c :: matched, marked)

/-- The mean of the shares of `m` matches in words of lengths `a` and `b`, and of those that are in
order, as doubles give it. -/
def meanShare (m a b inOrder : Nat) : Float :=
  (m.toFloat / a.toFloat + m.toFloat / b.toFloat + inOrder.toFloat / m.toFloat) / 3

def similarity (a b : List Char) : Float :=
  if a.isEmpty && b.isEmpty then 1
  else
    let range := max a.length b.length / 2 - 1
    let (inA, marked) := matchWords range 0 a (b.map (·, false))
    let inB := (marked.filter (·.2)).map (·.1)
    let m := inA.length
    if m = 0 then 0
    else
      let swaps := ((inA.zip inB).filter fun (x, y) => x ≠ y).length / 2
      meanShare m a.length b.length (m - swaps)

def mostSimilar? (bound : Float) (word : List Char) (words : List (List Char)) :
    Option (List Char) :=
  let best := words.foldl
    (fun (best : Option (Float × List Char)) w =>
      let r := similarity word w
      if !(bound < r) then best
      else
        match best with
        -- of equally similar words the last is taken
        | some (q, v) => if r < q then some (q, v) else some (r, w)
        | none => some (r, w))
    none
  best.map (·.2)

end BeanDoc.Text
