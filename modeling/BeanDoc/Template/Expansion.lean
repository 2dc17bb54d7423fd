import BeanDoc.Template.Reference

/-! Expansion of references. In plain text a reference becomes a variable block, inside a block it
becomes the bare path, and comments are left alone. A backslash in front of a reference in plain
text keeps the reference as it is written and is itself dropped. -/

namespace BeanDoc.Template

inductive Block where
  | output
  | statement
  | comment
  deriving DecidableEq, Repr

namespace Block

def opener : Block → Char
  | output => '{'
  | statement => '%'
  | comment => '#'

def closer : Block → Char
  | output => '}'
  | statement => '%'
  | comment => '#'

def ofOpener? : Char → Option Block
  | '{' => some output
  | '%' => some statement
  | '#' => some comment
  | _ => none

theorem opener_of_ofOpener? {c : Char} {b : Block} (h : ofOpener? c = some b) : b.opener = c := by
  unfold ofOpener? at h
  split at h <;> simp_all [opener] <;> subst h <;> rfl

end Block

inductive Region where
  | text
  | inside (block : Block)
  deriving DecidableEq, Repr

inductive Piece where
  | plain (c : Char)
  | opening (block : Block)
  | closing (block : Block)
  | reference (region : Region) (r : Reference)
  | escaped (r : Reference)
  deriving DecidableEq, Repr

namespace Piece

def source : Piece → List Char
  | plain c => [c]
  | opening b => ['{', b.opener]
  | closing b => [b.closer, '}']
  | reference _ r => r.spelling
  | escaped r => '\\' :: r.spelling

def expanded : Piece → List Char
  | plain c => [c]
  | opening b => ['{', b.opener]
  | closing b => [b.closer, '}']
  | reference .text r => ['{', '{', ' '] ++ r.path ++ [' ', '}', '}']
  | reference (.inside _) r => r.path
  | escaped r => r.spelling

def regionAfter (region : Region) : Piece → Region
  | opening b => .inside b
  | closing _ => .text
  | _ => region

def opening? : List Char → Option Block
  | '{' :: c :: _ => Block.ofOpener? c
  | _ => none

def closes (b : Block) : List Char → Bool
  | c :: '}' :: _ => c == b.closer
  | _ => false

def firstInText (c : Char) (cs : List Char) : Piece :=
  match opening? (c :: cs) with
  | some b => opening b
  | none =>
    match Reference.read? (c :: cs) with
    | some (r, _) => reference .text r
    | none =>
      if c = '\\' then
        match Reference.read? cs with
        | some (r, _) => escaped r
        | none => plain c
      else plain c

def firstInside (b : Block) (c : Char) (cs : List Char) : Piece :=
  if closes b (c :: cs) then closing b
  else if b = .comment then plain c
  else
    match Reference.read? (c :: cs) with
    | some (r, _) => reference (.inside b) r
    | none => plain c

def first : Region → Char → List Char → Piece
  | .text => firstInText
  | .inside b => firstInside b

theorem source_firstInText (c : Char) (cs : List Char) :
    ∃ rest, c :: cs = (firstInText c cs).source ++ rest := by
  unfold firstInText
  split
  · next b h =>
    cases cs with
    | nil => simp [opening?] at h
    | cons d cs =>
      unfold opening? at h
      split at h
      · next heq =>
        obtain ⟨rfl, rfl, rfl⟩ := by simpa using heq
        exact ⟨cs, by simp [source, Block.opener_of_ofOpener? h]⟩
      · simp at h
  · split
    · next h => exact ⟨_, Reference.read?_append h⟩
    · split
      · next hc =>
        subst hc
        split
        · next h => exact ⟨_, by simpa [source] using Reference.read?_append h⟩
        · exact ⟨cs, rfl⟩
      · exact ⟨cs, rfl⟩

theorem source_firstInside (b : Block) (c : Char) (cs : List Char) :
    ∃ rest, c :: cs = (firstInside b c cs).source ++ rest := by
  unfold firstInside
  split
  · next h =>
    unfold closes at h
    split at h
    · next tail heq =>
      exact ⟨tail, by simp [heq, source, eq_of_beq h]⟩
    · simp at h
  · split
    · exact ⟨cs, rfl⟩
    · split
      · next h => exact ⟨_, Reference.read?_append h⟩
      · exact ⟨cs, rfl⟩

theorem source_first (region : Region) (c : Char) (cs : List Char) :
    ∃ rest, c :: cs = (first region c cs).source ++ rest := by
  cases region with
  | text => exact source_firstInText c cs
  | inside b => exact source_firstInside b c cs

theorem source_length_pos (p : Piece) : 0 < p.source.length := by
  cases p <;> simp [source, Reference.spelling_length_pos]

end Piece

def scan (region : Region) (cs : List Char) : List Piece :=
  match cs with
  | [] => []
  | c :: cs =>
    let p := Piece.first region c cs
    p :: scan (p.regionAfter region) ((c :: cs).drop p.source.length)
termination_by cs.length
decreasing_by
  have := Piece.source_length_pos (Piece.first region c cs)
  simp only [List.length_drop, List.length_cons]
  omega

theorem source_scan (region : Region) (cs : List Char) :
    (scan region cs).flatMap Piece.source = cs := by
  fun_induction scan region cs with
  | case1 => rfl
  | case2 region c cs p ih =>
    obtain ⟨rest, hr⟩ := Piece.source_first region c cs
    have hd : (c :: cs).drop p.source.length = rest := by
      rw [hr]; exact List.drop_left
    rw [List.flatMap_cons, ih, hd, ← hr]

def expand (template : String) : String :=
  String.ofList ((scan .text template.toList).flatMap Piece.expanded)

end BeanDoc.Template
