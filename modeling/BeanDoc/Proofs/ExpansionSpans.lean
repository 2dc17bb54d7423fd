import BeanDoc.Proofs.TemplatePieces
import Mathlib.Data.List.Basic

/-! Where an expansion differs from its template. References are replaced at places of their own,
some with the backslash in front of them and none in a comment, and all else is copied once. -/

namespace BeanDoc.Template

inductive Replacement where
  | output
  | bare
  | literal
  deriving DecidableEq, Repr

/-- The place of a reference in a template. The backslash of a literal one belongs to it. -/
structure Span where
  start : Nat
  kind : Replacement
  reference : Reference
  deriving DecidableEq, Repr

namespace Span

def dollar (s : Span) : Nat :=
  if s.kind = .literal then s.start + 1 else s.start

def stop (s : Span) : Nat :=
  s.dollar + s.reference.spelling.length

def replacement (s : Span) : List Char :=
  match s.kind with
  | .output => ['{', '{', ' '] ++ s.reference.path ++ [' ', '}', '}']
  | .bare => s.reference.path
  | .literal => s.reference.spelling

structure Matches (s : Span) (template : List Char) : Prop where
  found : Reference.read? (template.drop s.dollar) = some (s.reference, template.drop s.stop)
  escape : s.kind = .literal → template[s.start]? = some '\\'
  within : s.stop ≤ template.length

end Span

/-- Replaces spans in the text that stands at position `n` of a template. What lies between them is
copied. -/
def replaceSpans (n : Nat) (cs : List Char) : List Span → List Char
  | [] => cs
  | s :: spans =>
    cs.take (s.start - n) ++ s.replacement ++ replaceSpans s.stop (cs.drop (s.stop - n)) spans

def commentEnd (n : Nat) : List Char → Nat
  | [] => n
  | c :: cs => if Piece.closes .comment (c :: cs) then n + 2 else commentEnd (n + 1) cs

/-- Where the comments of a text at position `n` begin and end: each at a `{#` in plain text and
behind the first `#}` after it. In a tag a reference is passed over, as the brace at its end does
not close the tag. -/
def commentsFrom (region : Region) (n : Nat) (cs : List Char) : List (Nat × Nat) :=
  match region, cs with
  | _, [] => []
  | .text, c :: cs =>
    match Piece.opening? (c :: cs) with
    | some b =>
      (if b = .comment then [(n, commentEnd (n + 2) cs.tail)] else []) ++
        commentsFrom (.inside b) (n + 2) cs.tail
    | none => commentsFrom .text (n + 1) cs
  | .inside b, c :: cs =>
    if Piece.closes b (c :: cs) then commentsFrom .text (n + 2) cs.tail
    else
      match if b = .comment then none else Reference.read? (c :: cs) with
      | some (r, _) =>
        commentsFrom (.inside b) (n + r.spelling.length) ((c :: cs).drop r.spelling.length)
      | none => commentsFrom (.inside b) (n + 1) cs
termination_by cs.length
decreasing_by
  · simp only [List.length_tail, List.length_cons]
    omega
  · simp
  · simp only [List.length_tail, List.length_cons]
    omega
  · have := r.spelling_length_pos
    simp only [List.length_drop, List.length_cons]
    omega
  · simp

def Piece.span? (n : Nat) : Piece → Option Span
  | reference .text r => some ⟨n, .output, r⟩
  | reference (.inside _) r => some ⟨n, .bare, r⟩
  | escaped r => some ⟨n, .literal, r⟩
  | _ => none

def spansFrom : Nat → List Piece → List Span
  | _, [] => []
  | n, p :: ps => (p.span? n).toList ++ spansFrom (n + p.source.length) ps

namespace Piece

variable {n : Nat} {p : Piece} {s : Span}

theorem span?_eq_some (h : p.span? n = some s) :
    s.start = n ∧ s.stop = n + p.source.length ∧ s.replacement = p.expanded := by
  rcases p with _ | _ | _ | ⟨_ | _, r⟩ | r
  all_goals simp only [span?, Option.some.injEq, reduceCtorEq] at h
  all_goals subst h
  · exact ⟨rfl, rfl, rfl⟩
  · exact ⟨rfl, rfl, rfl⟩
  · refine ⟨rfl, ?_, rfl⟩
    simp only [Span.stop, Span.dollar, source, List.length_cons, ↓reduceIte]
    omega

theorem expanded_of_span?_eq_none (h : p.span? n = none) : p.expanded = p.source := by
  rcases p with _ | _ | _ | ⟨_ | _, r⟩ | r
  all_goals first | rfl | simp [span?] at h

end Piece

theorem le_start_of_mem_spansFrom {n : Nat} {ps : List Piece} {s : Span} (h : s ∈ spansFrom n ps) :
    n ≤ s.start := by
  induction ps generalizing n with
  | nil => simp [spansFrom] at h
  | cons p ps ih =>
    rcases List.mem_append.1 h with h | h
    · exact (Piece.span?_eq_some (Option.mem_toList.1 h)).1.ge
    · exact (Nat.le_add_right _ _).trans (ih h)

theorem pairwise_spansFrom (n : Nat) (ps : List Piece) :
    (spansFrom n ps).Pairwise fun s s' => s.stop ≤ s'.start := by
  induction ps generalizing n with
  | nil => exact .nil
  | cons p ps ih =>
    refine List.pairwise_append.2 ⟨?_, ih _, fun s hs s' hs' => ?_⟩
    · cases p.span? n <;> simp
    · rw [(Piece.span?_eq_some (Option.mem_toList.1 hs)).2.1]
      exact le_start_of_mem_spansFrom hs'

section
variable {n : Nat} {cs : List Char} {spans : List Span}

theorem Span.start_le_stop (s : Span) : s.start ≤ s.stop := by
  unfold Span.stop Span.dollar
  split <;> omega

theorem replaceSpans_append {as : List Char} (h : ∀ s ∈ spans, n + as.length ≤ s.start) :
    replaceSpans n (as ++ cs) spans = as ++ replaceSpans (n + as.length) cs spans := by
  cases spans with
  | nil => rfl
  | cons s spans =>
    have hstart := h s List.mem_cons_self
    have hstop := s.start_le_stop
    rw [replaceSpans, replaceSpans, List.take_append, List.drop_append,
      List.take_of_length_le (by omega), List.drop_of_length_le (by omega), Nat.sub_sub,
      Nat.sub_sub]
    simp

theorem replaceSpans_spansFrom (n : Nat) (ps : List Piece) :
    replaceSpans n (ps.flatMap Piece.source) (spansFrom n ps) = ps.flatMap Piece.expanded := by
  induction ps generalizing n with
  | nil => rfl
  | cons p ps ih =>
    rw [List.flatMap_cons, List.flatMap_cons, ← ih (n + p.source.length), spansFrom]
    cases hspan : p.span? n with
    | none =>
      rw [Piece.expanded_of_span?_eq_none hspan]
      exact replaceSpans_append fun s hs => le_start_of_mem_spansFrom hs
    | some s =>
      obtain ⟨hstart, hstop, hreplacement⟩ := Piece.span?_eq_some hspan
      have hlength : n + p.source.length - n = p.source.length := by omega
      rw [Option.toList_some, List.singleton_append, replaceSpans, hstart, hstop, hreplacement,
        hlength, List.drop_left, Nat.sub_self, List.take_zero, List.nil_append]

end

theorem drop_add_of_drop {template rest : List Char} {n : Nat} (as : List Char)
    (h : template.drop n = as ++ rest) : template.drop (n + as.length) = rest := by
  rw [← List.drop_drop, h, List.drop_left]

theorem matches_of_drop {template rest : List Char} {s : Span}
    (hread : Reference.read? (s.reference.spelling ++ rest) = some (s.reference, rest))
    (hdrop : template.drop s.dollar = s.reference.spelling ++ rest)
    (hescape : s.kind = .literal → template[s.start]? = some '\\') : s.Matches template := by
  have hstop : template.drop s.stop = rest := drop_add_of_drop _ hdrop
  refine ⟨by rw [hdrop, hstop, hread], hescape, ?_⟩
  have hlength := congrArg List.length hdrop
  have hpos := s.reference.spelling_length_pos
  rw [List.length_drop, List.length_append] at hlength
  unfold Span.stop
  omega

theorem matches_of_scanned {template : List Char} {region : Region} {cs : List Char}
    {ps : List Piece} (h : Scanned region cs ps) {n : Nat} (hn : template.drop n = cs) :
    ∀ s ∈ spansFrom n ps, s.Matches template := by
  induction h generalizing n with
  | done region => simp [spansFrom]
  | @opening b rest ps _ ih =>
    exact ih (drop_add_of_drop ['{', b.opener] hn)
  | @reference r rest ps hread _ ih =>
    refine List.forall_mem_cons.2 ⟨?_, ih (drop_add_of_drop r.spelling hn)⟩
    exact matches_of_drop hread hn (fun hkind => by cases hkind)
  | @escaped r rest ps hread _ ih =>
    refine List.forall_mem_cons.2 ⟨?_, ih (drop_add_of_drop ('\\' :: r.spelling) hn)⟩
    refine matches_of_drop hread (drop_add_of_drop ['\\'] hn) fun _ => ?_
    rw [← List.head?_drop, hn]
    rfl
  | plain _ _ _ _ ih => exact ih (drop_add_of_drop [_] hn)
  | closing _ ih => exact ih (drop_add_of_drop [_, '}'] hn)
  | @referenceInside b r rest ps _ hread _ ih =>
    refine List.forall_mem_cons.2 ⟨?_, ih (drop_add_of_drop r.spelling hn)⟩
    exact matches_of_drop hread hn (fun hkind => by cases hkind)
  | plainInside _ _ _ ih => exact ih (drop_add_of_drop [_] hn)

section
variable {b : Block} {c : Char} {n : Nat} {as cs rest : List Char} {ps : List Piece}
  {r : Reference} {e : Nat × Nat}

theorem commentsFrom_opening : commentsFrom .text n ('{' :: b.opener :: cs) =
    (if b = .comment then [(n, commentEnd (n + 2) cs)] else []) ++
      commentsFrom (.inside b) (n + 2) cs := by
  have h : Piece.opening? ('{' :: b.opener :: cs) = some b := by cases b <;> rfl
  rw [commentsFrom, h]
  rfl

theorem commentsFrom_text_append (h : OpensNone rest as) :
    commentsFrom .text n (as ++ rest) = commentsFrom .text (n + as.length) rest := by
  induction as generalizing n with
  | nil => rfl
  | cons c as ih =>
    rw [List.cons_append, commentsFrom, h.1]
    simp only [ih h.2, List.length_cons, Nat.add_assoc, Nat.add_comm 1]

theorem commentsFrom_closing :
    commentsFrom (.inside b) n (b.closer :: '}' :: cs) = commentsFrom .text (n + 2) cs := by
  have h : Piece.closes b (b.closer :: '}' :: cs) = true := by simp [Piece.closes]
  rw [commentsFrom, if_pos h]
  rfl

theorem commentsFrom_reference (hcode : b ≠ .comment)
    (hread : Reference.read? (r.spelling ++ rest) = some (r, rest)) :
    commentsFrom (.inside b) n (r.spelling ++ rest) =
      commentsFrom (.inside b) (n + r.spelling.length) rest := by
  obtain ⟨more, hmore⟩ : ∃ more, r.spelling ++ rest = '$' :: more := ⟨_, rfl⟩
  have hclose : Piece.closes b ('$' :: more) = false := closes_of_ne (by cases b <;> decide)
  have hdrop : ('$' :: more).drop r.spelling.length = rest := by rw [← hmore, List.drop_left]
  rw [hmore] at hread ⊢
  rw [commentsFrom, if_neg (by simp [hclose]), if_neg hcode, hread]
  simp only [hdrop]

theorem commentsFrom_inside_cons (hclose : Piece.closes b (c :: cs) = false)
    (hread : b = .comment ∨ Reference.read? (c :: cs) = none) :
    commentsFrom (.inside b) n (c :: cs) = commentsFrom (.inside b) (n + 1) cs := by
  have hnone : (if b = .comment then none else Reference.read? (c :: cs)) = none := by
    rcases hread with hb | hread
    · exact if_pos hb
    · rw [hread, ite_self]
  rw [commentsFrom, if_neg (by simp [hclose]), hnone]

theorem le_fst_of_mem_commentsFrom {region : Region} (h : e ∈ commentsFrom region n cs) :
    n ≤ e.1 := by
  fun_induction commentsFrom region n cs with
  | case1 => simp at h
  | case2 n c cs b hopen ih =>
    rcases List.mem_append.1 h with h | h
    · split at h
      · rw [List.mem_singleton.1 h]
      · simp at h
    · exact (Nat.le_add_right n 2).trans (ih h)
  | case3 n c cs hopen ih => exact (Nat.le_succ n).trans (ih h)
  | case4 n b c cs hclose ih => exact (Nat.le_add_right n 2).trans (ih h)
  | case5 n b c cs hclose r rest hread ih => exact (Nat.le_add_right _ _).trans (ih h)
  | case6 n b c cs hclose hread ih => exact (Nat.le_succ n).trans (ih h)

theorem commentEnd_le_start {region : Region} (h : Scanned region cs ps)
    (hregion : region = .inside .comment) : ∀ s ∈ spansFrom n ps, commentEnd n cs ≤ s.start := by
  induction h generalizing n with
  | done region => simp [spansFrom]
  | opening _ _ => cases hregion
  | reference _ _ _ => cases hregion
  | escaped _ _ _ => cases hregion
  | plain _ _ _ _ _ => cases hregion
  | closing h _ =>
    obtain rfl := Region.inside.inj hregion
    exact fun s hs => le_start_of_mem_spansFrom hs
  | referenceInside hcode _ _ _ => exact absurd (Region.inside.inj hregion) hcode
  | plainInside hclose _ _ ih =>
    obtain rfl := Region.inside.inj hregion
    rw [commentEnd, if_neg (by simp [hclose])]
    exact ih rfl

theorem apart_of_scanned {region : Region} (h : Scanned region cs ps) :
    ∀ s ∈ spansFrom n ps, ∀ e ∈ commentsFrom region n cs, s.stop ≤ e.1 ∨ e.2 ≤ s.start := by
  induction h generalizing n with
  | done region => simp [spansFrom]
  | @opening b rest ps h ih =>
    rw [commentsFrom_opening]
    intro s hs e he
    rcases List.mem_append.1 he with hthis | hlater
    · by_cases hb : b = .comment
      · subst hb
        rw [if_pos rfl, List.mem_singleton] at hthis
        rw [hthis]
        -- the pieces up to the end of this comment are plain, so the spans are all behind it
        exact .inr (commentEnd_le_start h rfl s hs)
      · simp [hb] at hthis
    · exact ih s hs e hlater
  | @reference r rest ps hread _ ih =>
    -- the brace of a reference opens no block, so what comments there are begin behind it
    rw [commentsFrom_text_append (opensNone_spelling (Reference.read?_hasPath hread))]
    refine List.forall_mem_cons.2 ⟨fun e he => .inl (le_fst_of_mem_commentsFrom he), ih⟩
  | @escaped r rest ps hread _ ih =>
    have hnone : OpensNone rest ('\\' :: r.spelling) :=
      ⟨opening?_of_ne (by decide), opensNone_spelling (Reference.read?_hasPath hread)⟩
    rw [← List.cons_append, commentsFrom_text_append hnone]
    refine List.forall_mem_cons.2 ⟨fun e he => .inl ?_, ih⟩
    have hstart := le_fst_of_mem_commentsFrom he
    simp only [Span.stop, Span.dollar, List.length_cons, ↓reduceIte] at hstart ⊢
    omega
  | @plain c rest ps hopen _ _ _ ih =>
    rw [commentsFrom, hopen]
    exact ih
  | closing _ ih =>
    rw [commentsFrom_closing]
    exact ih
  | referenceInside hcode hread _ ih =>
    rw [commentsFrom_reference hcode hread]
    refine List.forall_mem_cons.2 ⟨fun e he => .inl (le_fst_of_mem_commentsFrom he), ih⟩
  | plainInside hclose hread _ ih =>
    rw [commentsFrom_inside_cons hclose hread]
    exact ih

end

section
variable {region : Region} {n k : Nat} {as cs rest : List Char} {ps : List Piece} {r : Reference}

/-- A reference that begins at the position is replaced at a span, or is inside a comment: one that
begins in the text, or the one that the text begins in. -/
def Accounted (region : Region) (n : Nat) (cs : List Char) (ps : List Piece) (m : Nat) : Prop :=
  (∃ s ∈ spansFrom n ps, s.dollar = m) ∨
    (∃ e ∈ commentsFrom region n cs, e.1 ≤ m ∧ m < e.2) ∨
    (region = .inside .comment ∧ m < commentEnd n cs)

theorem le_commentEnd (n : Nat) (cs : List Char) : n ≤ commentEnd n cs := by
  induction cs generalizing n with
  | nil => exact le_rfl
  | cons c cs ih =>
    rw [commentEnd]
    split
    · exact Nat.le_add_right n 2
    · exact (Nat.le_succ n).trans (ih (n + 1))

theorem dollar_not_mem_tail_spelling (hr : r.HasPath) : '$' ∉ r.spelling.tail := by
  have hpath : '$' ∉ r.path := fun hmem => by
    have hchar := hr.chars '$' hmem
    simp [Reference.IsPathChar, Reference.isNameChar] at hchar
  cases hquiet : r.quiet <;> cases hbraced : r.braced <;>
    simp [Reference.spelling, hquiet, hbraced, hpath]

theorem exists_eq_add_of_read?_drop (has : '$' ∉ as)
    (h : Reference.read? ((as ++ rest).drop k) ≠ none) :
    ∃ j, k = as.length + j ∧ Reference.read? (rest.drop j) ≠ none := by
  by_cases hk : as.length ≤ k
  · obtain ⟨j, rfl⟩ := Nat.exists_eq_add_of_le hk
    rw [List.drop_append, List.drop_of_length_le hk, Nat.add_sub_cancel_left] at h
    exact ⟨j, rfl, h⟩
  · have hlt : k < as.length := Nat.lt_of_not_le hk
    have hne : as[k] ≠ '$' := fun heq => has (heq ▸ List.getElem_mem hlt)
    rw [List.drop_append_of_le_length hlt.le, List.drop_eq_getElem_cons hlt, List.cons_append,
      Reference.read?_of_ne hne] at h
    exact absurd rfl h

theorem read?_drop_spelling (hr : r.HasPath)
    (h : Reference.read? ((r.spelling ++ rest).drop k) ≠ none) :
    k = 0 ∨ ∃ j, k = r.spelling.length + j ∧ Reference.read? (rest.drop j) ≠ none := by
  cases k with
  | zero => exact .inl rfl
  | succ k =>
    have hlength := r.spelling_length_pos
    have htail : (r.spelling ++ rest).drop (k + 1) = (r.spelling.tail ++ rest).drop k := rfl
    rw [htail] at h
    obtain ⟨j, rfl, hj⟩ := exists_eq_add_of_read?_drop (dollar_not_mem_tail_spelling hr) h
    refine .inr ⟨j, ?_, hj⟩
    rw [List.length_tail]
    omega

theorem Accounted.cons {p : Piece} {region' : Region} {m : Nat}
    (h : Accounted region' (n + p.source.length) rest ps m)
    (hcomments : commentsFrom region' (n + p.source.length) rest ⊆ commentsFrom region n cs)
    (hinside : region' = .inside .comment → m < commentEnd (n + p.source.length) rest →
      (∃ e ∈ commentsFrom region n cs, e.1 ≤ m ∧ m < e.2) ∨
        (region = .inside .comment ∧ m < commentEnd n cs)) :
    Accounted region n cs (p :: ps) m := by
  rcases h with ⟨s, hs, hdollar⟩ | ⟨e, he, hwithin⟩ | ⟨hregion, hend⟩
  · exact .inl ⟨s, List.mem_append_right _ hs, hdollar⟩
  · exact .inr (.inl ⟨e, hcomments he, hwithin⟩)
  · exact .inr (hinside hregion hend)

theorem Accounted.cons_of_eq {p : Piece} {region' : Region} {j : Nat}
    (h : Accounted region' (n + p.source.length) rest ps (n + p.source.length + j))
    (hcomments : commentsFrom region n cs = commentsFrom region' (n + p.source.length) rest)
    (hregion : region' ≠ .inside .comment) :
    Accounted region n cs (p :: ps) (n + (p.source.length + j)) := by
  rw [← Nat.add_assoc]
  exact h.cons (hcomments ▸ List.Subset.refl _) fun hinside => absurd hinside hregion

theorem Accounted.here {p : Piece} {s : Span} (h : p.span? n = some s) :
    Accounted region n cs (p :: ps) s.dollar :=
  .inl ⟨s, List.mem_append_left _ (Option.mem_toList.2 h), rfl⟩

theorem accounted_of_scanned (h : Scanned region cs ps) :
    ∀ k, Reference.read? (cs.drop k) ≠ none → Accounted region n cs ps (n + k) := by
  induction h generalizing n with
  | done region =>
    intro k hk
    simp [Reference.read?] at hk
  | @opening b rest ps _ ih =>
    intro k hk
    have hmarks : '$' ∉ ['{', b.opener] := by cases b <;> decide
    obtain ⟨j, rfl, hj⟩ := exists_eq_add_of_read?_drop hmarks hk
    rw [← Nat.add_assoc]
    refine (ih j hj).cons ?_ ?_
    · rw [commentsFrom_opening]
      exact List.subset_append_right _ _
    · intro hregion hend
      obtain rfl := Region.inside.inj hregion
      refine .inl ⟨(n, commentEnd (n + 2) rest), ?_, by omega, hend⟩
      rw [commentsFrom_opening, if_pos rfl]
      exact List.mem_append_left _ (List.mem_singleton_self _)
  | @reference r rest ps hread _ ih =>
    intro k hk
    have hr := Reference.read?_hasPath hread
    rcases read?_drop_spelling hr hk with rfl | ⟨j, rfl, hj⟩
    · exact .here (s := ⟨n, .output, r⟩) rfl
    · refine (ih j hj).cons_of_eq (p := .reference .text r) ?_ (by simp)
      exact commentsFrom_text_append (opensNone_spelling hr)
  | @escaped r rest ps hread _ ih =>
    intro k hk
    have hr := Reference.read?_hasPath hread
    have hmark : '$' ∉ ['\\'] := by decide
    obtain ⟨i, rfl, hi⟩ := exists_eq_add_of_read?_drop hmark hk
    rcases read?_drop_spelling hr hi with rfl | ⟨j, rfl, hj⟩
    · exact .here (s := ⟨n, .literal, r⟩) rfl
    · have hnone : OpensNone rest ('\\' :: r.spelling) :=
        ⟨opening?_of_ne (by decide), opensNone_spelling hr⟩
      have hplace : ['\\'].length + (r.spelling.length + j) = ('\\' :: r.spelling).length + j := by
        simp only [List.length_cons, List.length_nil]
        omega
      rw [hplace]
      refine (ih j hj).cons_of_eq (p := .escaped r) ?_ (by simp)
      exact commentsFrom_text_append hnone
  | @plain c rest ps hopen hread _ _ ih =>
    intro k hk
    cases k with
    | zero => exact absurd hread hk
    | succ j =>
      rw [Nat.add_comm j]
      refine (ih j hk).cons_of_eq (p := .plain c) ?_ (by simp)
      rw [commentsFrom, hopen]
      rfl
  | @closing b rest ps _ ih =>
    intro k hk
    have hmarks : '$' ∉ [b.closer, '}'] := by cases b <;> decide
    obtain ⟨j, rfl, hj⟩ := exists_eq_add_of_read?_drop hmarks hk
    exact (ih j hj).cons_of_eq (p := .closing b) commentsFrom_closing (by simp)
  | @referenceInside b r rest ps hcode hread _ ih =>
    intro k hk
    rcases read?_drop_spelling (Reference.read?_hasPath hread) hk with rfl | ⟨j, rfl, hj⟩
    · exact .here (s := ⟨n, .bare, r⟩) rfl
    · refine (ih j hj).cons_of_eq (p := .reference (.inside b) r) ?_ (by simpa using hcode)
      exact commentsFrom_reference hcode hread
  | @plainInside b c rest ps hclose hread _ ih =>
    intro k hk
    have hend : commentEnd n (c :: rest) = commentEnd (n + 1) rest ∨ b ≠ .comment := by
      by_cases hb : b = .comment
      · subst hb
        exact .inl (by rw [commentEnd, if_neg (by simp [hclose])])
      · exact .inr hb
    cases k with
    | zero =>
      obtain rfl := hread.resolve_right hk
      have hlater := le_commentEnd (n + 1) rest
      rw [← hend.resolve_right (by simp)] at hlater
      exact .inr (.inr ⟨rfl, hlater⟩)
    | succ j =>
      rw [Nat.add_comm j, ← Nat.add_assoc]
      refine (ih j hk).cons ?_ ?_
      · rw [commentsFrom_inside_cons hclose hread]
        exact List.Subset.refl _
      · intro hregion hlt
        rcases hend with hend | hcode
        · exact .inr ⟨hregion, hend ▸ hlt⟩
        · exact absurd (Region.inside.inj hregion) hcode

end

theorem Piece.expanded_of_no_dollar {p : Piece} (h : '$' ∉ p.source) : p.expanded = p.source := by
  cases p with
  | reference region r => simp [source, Reference.spelling] at h
  | escaped r => simp [source, Reference.spelling] at h
  | plain c => rfl
  | opening b => rfl
  | closing b => rfl

theorem expand_of_no_dollar {template : String} (h : '$' ∉ template.toList) :
    expand template = template := by
  have hcopy : ∀ p ∈ scan .text template.toList, p.expanded = p.source := by
    intro p hp
    refine Piece.expanded_of_no_dollar fun hmem => h ?_
    rw [← source_scan .text template.toList]
    exact List.mem_flatMap.2 ⟨p, hp, hmem⟩
  rw [expand, List.flatMap_congr hcopy, source_scan, String.ofList_toList]

theorem length_le_length_source (ps : List Piece) :
    ps.length ≤ (ps.flatMap Piece.source).length := by
  induction ps with
  | nil => exact le_rfl
  | cons p ps ih =>
    have hpos := p.source_length_pos
    simp only [List.flatMap_cons, List.length_append, List.length_cons]
    omega

theorem length_scan_le (region : Region) (cs : List Char) :
    (scan region cs).length ≤ cs.length := by
  have hpieces := length_le_length_source (scan region cs)
  rwa [source_scan] at hpieces

/-- The expansion of a template is the template with the references in it replaced: every one of
them but those in a comment. -/
theorem expand_replaces_spans (template : String) :
    (∃ spans : List Span, spans.Pairwise (fun s s' => s.stop ≤ s'.start) ∧
      (∀ s ∈ spans, s.Matches template.toList) ∧
      (∀ s ∈ spans, ∀ e ∈ commentsFrom .text 0 template.toList, s.stop ≤ e.1 ∨ e.2 ≤ s.start) ∧
      (∀ n, Reference.read? (template.toList.drop n) ≠ none → (∃ s ∈ spans, s.dollar = n) ∨
        ∃ e ∈ commentsFrom .text 0 template.toList, e.1 ≤ n ∧ n < e.2) ∧
      (expand template).toList = replaceSpans 0 template.toList spans) ∧
    ('$' ∉ template.toList → expand template = template) ∧
    (scan .text template.toList).length ≤ template.toList.length := by
  have hscanned := scanned_scan .text template.toList
  refine ⟨⟨spansFrom 0 (scan .text template.toList), pairwise_spansFrom 0 _,
    matches_of_scanned hscanned rfl, apart_of_scanned hscanned, ?_, ?_⟩, expand_of_no_dollar,
    length_scan_le .text template.toList⟩
  · intro n hn
    have haccounted : Accounted .text 0 template.toList _ (0 + n) :=
      accounted_of_scanned hscanned n hn
    rw [Nat.zero_add] at haccounted
    exact haccounted.imp_right fun h => h.resolve_right fun h => by cases h.1
  · have hreplaced := replaceSpans_spansFrom 0 (scan .text template.toList)
    rw [source_scan] at hreplaced
    rw [hreplaced, expand, String.toList_ofList]

-- the second `{#` is inside a tag, which the brace of the reference has not closed
example : commentsFrom .text 0 "\x7b# $a #\x7d\x7b\x7b$\x7bb\x7d\x7d \x7b# $c #\x7d".toList =
    [(0, 8)] := by
  decide +kernel

end BeanDoc.Template
