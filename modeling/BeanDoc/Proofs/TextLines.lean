import BeanDoc.Text.Split
import Mathlib.Data.List.Chain

/-! The lines of a text. A text is one line without a line feed, or such a line, a line feed and
the rest; what holds of texts line by line is proved along that division. -/

namespace BeanDoc.Text

theorem before?_eq_some_iff {tail cs lead : List Char} :
    before? tail cs = some lead ↔ cs = lead ++ tail := by
  rw [before?, Option.map_eq_some_iff]
  constructor
  · rintro ⟨rest, hrest, rfl⟩
    rw [after?_eq_some_iff] at hrest
    simpa using congrArg List.reverse hrest
  · rintro rfl
    refine ⟨lead.reverse, ?_, List.reverse_reverse lead⟩
    rw [List.reverse_append, after?_append]

theorem after?_eq_none_iff {lead cs : List Char} : after? lead cs = none ↔ ¬ lead <+: cs := by
  rw [← Option.not_isSome_iff_eq_none, Option.isSome_iff_exists]
  simp only [after?_eq_some_iff, List.IsPrefix, eq_comm (b := cs)]

theorem before?_eq_none_iff {tail cs : List Char} : before? tail cs = none ↔ ¬ tail <:+ cs := by
  rw [← Option.not_isSome_iff_eq_none, Option.isSome_iff_exists]
  simp only [before?_eq_some_iff, List.IsSuffix, eq_comm (b := cs)]

/-- Two neighbouring characters that are not both those of the pattern. -/
def Apart (a b c d : Char) : Prop :=
  ¬ (c = a ∧ d = b)

theorem occurs_pair_eq_false_iff {a b : Char} {cs : List Char} :
    occurs [a, b] cs = false ↔ cs.IsChain (Apart a b) := by
  unfold occurs
  induction cs with
  | nil => simp [cut?, after?]
  | cons c cs ih =>
    cases cs with
    | nil => by_cases hc : a = c <;> simp [cut?, after?, hc]
    | cons d cs =>
      rw [List.isChain_cons_cons, ← ih, cut?]
      by_cases hcd : a = c ∧ b = d
      · obtain ⟨rfl, rfl⟩ := hcd
        simp [after?, Apart]
      · have hafter : after? [a, b] (c :: d :: cs) = none := by
          by_cases hc : a = c
          · have hd : b ≠ d := fun hd => hcd ⟨hc, hd⟩
            simp [after?, hc, hd]
          · simp [after?, hc]
        have hapart : Apart a b c d := by
          rintro ⟨rfl, rfl⟩
          exact hcd ⟨rfl, rfl⟩
        simp [hafter, hapart]

theorem occurs_eq_true_iff {pattern cs : List Char} :
    occurs pattern cs = true ↔ pattern <:+: cs := by
  have hstart : ∀ ds, pattern <+: ds ↔ (after? pattern ds).isSome = true := by
    intro ds
    rw [Option.isSome_iff_ne_none, Ne, after?_eq_none_iff, not_not]
  induction cs with
  | nil => rw [occurs, cut?, Option.isSome_map, ← hstart, List.prefix_nil, List.infix_nil]
  | cons c cs ih =>
    have hrest : (cut? pattern cs).isSome = true ↔ pattern <:+: cs := ih
    rw [List.infix_cons_iff, hstart, ← hrest, occurs, cut?]
    cases after? pattern (c :: cs) <;> simp

theorem isChain_apart_iff {a b : Char} {cs : List Char} :
    cs.IsChain (Apart a b) ↔ ¬ [a, b] <:+: cs := by
  rw [← occurs_pair_eq_false_iff, Bool.eq_false_iff, Ne, occurs_eq_true_iff]

theorem line_induction {motive : List Char → Prop}
    (last : ∀ l, '\n' ∉ l → motive l)
    (line : ∀ l rest, '\n' ∉ l → motive rest → motive (l ++ '\n' :: rest))
    (cs : List Char) : motive cs := by
  induction hn : cs.length using Nat.strong_induction_on generalizing cs with
  | _ n ih =>
    by_cases hmem : '\n' ∈ cs
    · obtain ⟨l, rest, rfl, hl⟩ := List.eq_append_cons_of_mem hmem
      refine line l rest hl (ih rest.length ?_ rest rfl)
      simp only [List.length_append, List.length_cons] at hn
      omega
    · exact last cs hmem

theorem pieces_of_not_mem {sep : Char} {cs : List Char} (h : sep ∉ cs) :
    pieces sep cs = [cs] := by
  induction cs with
  | nil => rfl
  | cons c cs ih =>
    have hc : c ≠ sep := fun hc => h (hc ▸ List.mem_cons_self)
    have hcs : sep ∉ cs := fun hmem => h (List.mem_cons_of_mem c hmem)
    simp [pieces, hc, ih hcs]

theorem pieces_append_sep {sep : Char} {l : List Char} (h : sep ∉ l) (rest : List Char) :
    pieces sep (l ++ sep :: rest) = l :: pieces sep rest := by
  induction l with
  | nil => simp [pieces]
  | cons c l ih =>
    have hc : c ≠ sep := fun hc => h (hc ▸ List.mem_cons_self)
    have hl : sep ∉ l := fun hmem => h (List.mem_cons_of_mem c hmem)
    simp [pieces, hc, ih hl]

theorem pieces_ne_nil (sep : Char) (cs : List Char) : pieces sep cs ≠ [] := by
  cases cs with
  | nil => simp [pieces]
  | cons c cs =>
    unfold pieces
    split
    · simp
    · split <;> simp

theorem mem_pieces {sep : Char} {cs p : List Char} (h : p ∈ pieces sep cs) :
    p <:+: cs ∧ sep ∉ p := by
  induction hn : cs.length using Nat.strong_induction_on generalizing cs with
  | _ n ih =>
    by_cases hmem : sep ∈ cs
    · obtain ⟨l, rest, rfl, hl⟩ := List.eq_append_cons_of_mem hmem
      rw [pieces_append_sep hl] at h
      rcases List.mem_cons.1 h with rfl | h
      · exact ⟨(List.prefix_append p _).isInfix, hl⟩
      · have hshort : rest.length < n := by
          rw [← hn, List.length_append, List.length_cons]
          omega
        obtain ⟨hpart, hnot⟩ := ih rest.length hshort h rfl
        exact ⟨hpart.trans (List.suffix_append_of_suffix (List.suffix_cons sep rest)).isInfix, hnot⟩
    · rw [pieces_of_not_mem hmem, List.mem_singleton] at h
      exact ⟨h ▸ List.infix_refl p, h ▸ hmem⟩

theorem join_cons_of_ne_nil {ls : List (List Char)} (h : ls ≠ []) (sep l : List Char) :
    join sep (l :: ls) = l ++ sep ++ join sep ls := by
  cases ls with
  | nil => exact absurd rfl h
  | cons k ls => rfl

theorem join_pieces (sep : Char) (cs : List Char) : join [sep] (pieces sep cs) = cs := by
  induction cs with
  | nil => rfl
  | cons c cs ih =>
    have hne := pieces_ne_nil sep cs
    rw [pieces]
    split
    · next hc => rw [join_cons_of_ne_nil hne, ih, hc]; rfl
    · cases hp : pieces sep cs with
      | nil => exact absurd hp hne
      | cons p ps =>
        rw [hp] at ih
        cases ps with
        | nil => exact congrArg (c :: ·) ih
        | cons q ps => exact congrArg (c :: ·) ih

theorem pieces_join {sep : Char} {ls : List (List Char)} (hne : ls ≠ []) (h : ∀ l ∈ ls, sep ∉ l) :
    pieces sep (join [sep] ls) = ls := by
  induction ls with
  | nil => exact absurd rfl hne
  | cons l ls ih =>
    have hl := h l List.mem_cons_self
    cases ls with
    | nil => exact pieces_of_not_mem hl
    | cons k ls =>
      have hrest := ih (List.cons_ne_nil k ls) fun m hm => h m (List.mem_cons_of_mem l hm)
      rw [join_cons_of_ne_nil (List.cons_ne_nil k ls), List.append_assoc, List.singleton_append,
        pieces_append_sep hl, hrest]

theorem mem_join_isInfix {sep : List Char} {ls : List (List Char)} {l : List Char} (h : l ∈ ls) :
    l <:+: join sep ls := by
  induction ls with
  | nil => simp at h
  | cons k ls ih =>
    cases ls with
    | nil => exact List.mem_singleton.1 h ▸ List.infix_refl l
    | cons m ls =>
      rw [join_cons_of_ne_nil (List.cons_ne_nil m ls)]
      rcases List.mem_cons.1 h with rfl | h
      · exact (List.prefix_append_of_prefix (List.prefix_append l sep)).isInfix
      · exact (ih h).trans (List.suffix_append _ _).isInfix

theorem lines_of_not_mem {l : List Char} (h : '\n' ∉ l) :
    lines l = if l.isEmpty then [] else [l] := by
  rw [lines, pieces_of_not_mem h, closeLines]

theorem lines_append_newline {l : List Char} (h : '\n' ∉ l) (rest : List Char) :
    lines (l ++ '\n' :: rest) = dropReturn l :: lines rest := by
  rw [lines, pieces_append_sep h]
  cases hp : pieces '\n' rest with
  | nil => exact absurd hp (pieces_ne_nil '\n' rest)
  | cons p ps => rw [closeLines, lines, hp]; simp

theorem eq_dropReturn_or (l : List Char) : l = dropReturn l ∨ l = dropReturn l ++ ['\r'] := by
  cases hb : before? ['\r'] l with
  | none => exact .inl (by simp [dropReturn, hb])
  | some p => exact .inr (by simpa [dropReturn, hb] using before?_eq_some_iff.1 hb)

theorem dropReturn_isPrefix (l : List Char) : dropReturn l <+: l := by
  rcases eq_dropReturn_or l with h | h
  · exact h ▸ List.prefix_refl l
  · exact ⟨['\r'], h.symm⟩

theorem mem_lines {l cs : List Char} (h : l ∈ lines cs) : l <:+: cs ∧ '\n' ∉ l := by
  induction cs using line_induction with
  | last k hk =>
    rw [lines_of_not_mem hk] at h
    split at h
    · simp at h
    · obtain rfl := List.mem_singleton.1 h
      exact ⟨List.infix_refl l, hk⟩
  | line k rest hk ih =>
    rw [lines_append_newline hk] at h
    rcases List.mem_cons.1 h with rfl | h
    · have hpre := dropReturn_isPrefix k
      exact ⟨hpre.isInfix.trans (List.prefix_append k _).isInfix, fun hmem => hk (hpre.subset hmem)⟩
    · obtain ⟨hpart, hnot⟩ := ih h
      have hsuffix : rest <:+ k ++ '\n' :: rest := ⟨k ++ ['\n'], by simp⟩
      exact ⟨hpart.trans hsuffix.isInfix, hnot⟩

end BeanDoc.Text
