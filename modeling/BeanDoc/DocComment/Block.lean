import BeanDoc.DocComment.Basic
import BeanDoc.Text.Blank
import BeanDoc.Text.Split

/-! The comment block: what stands between `/**` and `*/`, and its content lines. -/

namespace BeanDoc.DocComment

def body (text : List Char) : Except Fault (List Char) :=
  match Text.after? ['/', '*', '*'] (Text.trim text) with
  | none => .error .missingOpening
  | some rest =>
    match Text.before? ['*', '/'] rest with
    | none => .error .unterminated
    | some inner => .ok inner

def dropOne (c : Char) : List Char → List Char
  | [] => []
  | d :: cs => if d = c then cs else d :: cs

def undecorate (line : List Char) : List Char :=
  dropOne ' ' (dropOne '*' (Text.trimStart line))

/-- A line and what is left of it: behind the indentation all of it, if no `*` stands there, and
else what stands behind the `*` and one space. -/
inductive Decorated : (line content : List Char) → Prop
  | bare {indent content : List Char} (hindent : Text.allBlank indent = true)
      (hhead : ∀ c ∈ content.head?, Text.isBlank c = false ∧ c ≠ '*') :
      Decorated (indent ++ content) content
  | starred {indent content : List Char} (hindent : Text.allBlank indent = true)
      (hhead : ∀ c ∈ content.head?, c ≠ ' ') : Decorated (indent ++ '*' :: content) content
  | spaced {indent content : List Char} (hindent : Text.allBlank indent = true) :
      Decorated (indent ++ '*' :: ' ' :: content) content

theorem dropOne_cons (c : Char) (cs : List Char) : dropOne c (c :: cs) = cs :=
  if_pos rfl

theorem dropOne_of_head_ne {c : Char} {cs : List Char} (h : ∀ d ∈ cs.head?, d ≠ c) :
    dropOne c cs = cs := by
  cases cs with
  | nil => rfl
  | cons d cs => exact if_neg (h d rfl)

theorem decorated_undecorate (line : List Char) : Decorated line (undecorate line) := by
  obtain ⟨indent, hindent, hline⟩ := Text.exists_eq_append_trimStart line
  unfold undecorate
  rcases hrest : Text.trimStart line with _ | ⟨c, rest⟩
  · rw [hline, hrest]
    exact .bare hindent (by simp)
  have hblank : Text.isBlank c = false := Text.not_blank_of_trimStart_eq_cons hrest
  rw [hline, hrest]
  by_cases hstar : c = '*'
  · subst hstar
    rw [dropOne_cons]
    rcases rest with _ | ⟨d, rest⟩
    · exact .starred hindent (by simp)
    by_cases hspace : d = ' '
    · subst hspace
      rw [dropOne_cons]
      exact .spaced hindent
    · rw [dropOne_of_head_ne (by simpa using hspace)]
      exact .starred hindent (by simpa using hspace)
  · have hspace : c ≠ ' ' := by
      rintro rfl
      exact absurd Text.isBlank_space (by simp [hblank])
    have hkept : dropOne '*' (c :: rest) = c :: rest := dropOne_of_head_ne (by simpa using hstar)
    rw [hkept, dropOne_of_head_ne (by simpa using hspace)]
    exact .bare hindent (by simpa using ⟨hblank, hstar⟩)

theorem Decorated.undecorate_eq {line content : List Char} (h : Decorated line content) :
    undecorate line = content := by
  have hstar : Text.isBlank '*' = false := by decide
  cases h with
  | bare hindent hhead =>
    have hspace : ∀ c ∈ content.head?, c ≠ ' ' := by
      rintro c hc rfl
      exact absurd Text.isBlank_space (by simp [(hhead _ hc).1])
    rw [undecorate, Text.trimStart_blank_append hindent,
      Text.trimStart_of_head_not_blank fun c hc => (hhead c hc).1,
      dropOne_of_head_ne fun c hc => (hhead c hc).2, dropOne_of_head_ne hspace]
  | starred hindent hhead =>
    rw [undecorate, Text.trimStart_blank_append hindent, Text.trimStart_cons_of_not_blank hstar,
      dropOne_cons, dropOne_of_head_ne hhead]
  | spaced hindent =>
    rw [undecorate, Text.trimStart_blank_append hindent, Text.trimStart_cons_of_not_blank hstar,
      dropOne_cons, dropOne_cons]

/-- What is removed from a line is its decoration and nothing else. -/
theorem undecorate_eq_iff {line content : List Char} :
    undecorate line = content ↔ Decorated line content := by
  refine ⟨?_, Decorated.undecorate_eq⟩
  rintro rfl
  exact decorated_undecorate line

def contentLines (inner : List Char) : List (List Char) :=
  (Text.lines inner).map undecorate

end BeanDoc.DocComment
