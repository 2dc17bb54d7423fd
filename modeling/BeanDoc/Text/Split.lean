/-! Cutting text: at a character, at a pattern, and into lines. -/

namespace BeanDoc.Text

def after? : (lead cs : List Char) → Option (List Char)
  | [], cs => some cs
  | _ :: _, [] => none
  | l :: lead, c :: cs => if l = c then after? lead cs else none

def before? (tail cs : List Char) : Option (List Char) :=
  (after? tail.reverse cs.reverse).map List.reverse

def cut? (pattern : List Char) : List Char → Option (List Char × List Char)
  | [] => (after? pattern []).map fun rest => ([], rest)
  | c :: cs =>
    match after? pattern (c :: cs) with
    | some rest => some ([], rest)
    | none => (cut? pattern cs).map fun (lead, rest) => (c :: lead, rest)

def occurs (pattern cs : List Char) : Bool :=
  (cut? pattern cs).isSome

def cutWhere (p : Char → Bool) (cs : List Char) : List Char × List Char :=
  (cs.takeWhile (!p ·), (cs.dropWhile (!p ·)).tail)

def pieces (sep : Char) : List Char → List (List Char)
  | [] => [[]]
  | c :: cs =>
    if c = sep then [] :: pieces sep cs
    else match pieces sep cs with
      | [] => [[c]]
      | p :: ps => (c :: p) :: ps

def dropReturn (line : List Char) : List Char :=
  (before? ['\r'] line).getD line

def closeLines : List (List Char) → List (List Char)
  | [] => []
  -- nothing after the last line feed is no line
  | [l] => if l.isEmpty then [] else [l]
  | l :: ls => dropReturn l :: closeLines ls

/-- The lines of a text. A line feed ends a line, and a carriage return just before it belongs to
the line end. -/
def lines (cs : List Char) : List (List Char) :=
  closeLines (pieces '\n' cs)

def join (sep : List Char) : List (List Char) → List Char
  | [] => []
  | [l] => l
  | l :: ls => l ++ sep ++ join sep ls

theorem after?_append (lead rest : List Char) : after? lead (lead ++ rest) = some rest := by
  induction lead with
  | nil => rfl
  | cons l lead ih => simp [after?, ih]

theorem after?_eq_some_iff {lead cs rest : List Char} :
    after? lead cs = some rest ↔ cs = lead ++ rest := by
  constructor
  · intro h
    induction lead generalizing cs with
    | nil => simpa [after?] using h
    | cons l lead ih =>
      cases cs with
      | nil => simp [after?] at h
      | cons c cs =>
        by_cases hc : l = c
        · subst hc
          simp only [after?, ↓reduceIte] at h
          simp [ih h]
        · simp [after?, hc] at h
  · rintro rfl
    exact after?_append lead rest

end BeanDoc.Text
