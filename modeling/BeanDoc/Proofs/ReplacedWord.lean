import BeanDoc.Proofs.LayoutMeaning
import Mathlib.Data.List.Induction

/-! A word of a comment can be replaced by another one, as long as the word is no part of the name
of a tag and neither has a character that means something to the reader. -/

namespace BeanDoc.Text

def lastRun (cs : List Char) : List Char :=
  cs.rtakeWhile (!isBlank ·)

section
variable {c : Char} {as bs : List Char}

theorem mem_lastRun_append : c ∈ lastRun (as ++ bs) ↔
    c ∈ lastRun bs ∨ (∀ d ∈ bs, isBlank d = false) ∧ c ∈ lastRun as := by
  unfold lastRun
  induction bs using List.reverseRecOn with
  | nil => simp
  | append_singleton bs d ih =>
    rw [← List.append_assoc, List.rtakeWhile_concat, List.rtakeWhile_concat]
    cases hd : isBlank d with
    | true => simp [hd]
    | false =>
      simp only [Bool.not_false, if_true, List.mem_append, List.mem_singleton, ih]
      grind

theorem mem_lastRun_of_suffix (h : as <:+ bs) (hc : c ∈ lastRun as) : c ∈ lastRun bs := by
  obtain ⟨pre, rfl⟩ := h
  exact mem_lastRun_append.2 (.inl hc)

theorem lastRun_eq_self (h : ∀ d ∈ as, isBlank d = false) : lastRun as = as := by
  refine List.rtakeWhile_eq_self_iff.2 fun d hd => ?_
  rw [h d hd]
  rfl

theorem dropReturn_concat (as : List Char) (c : Char) :
    dropReturn (as ++ [c]) = if c = '\r' then as else as ++ [c] := by
  split
  · next hc =>
    subst hc
    rw [dropReturn, before?_eq_some_iff.2 rfl]
    rfl
  · next hc =>
    rcases eq_dropReturn_or (as ++ [c]) with h | h
    · exact h.symm
    · exact absurd (by simpa using congrArg List.getLast? h) hc

theorem Solid.dropReturn_append {w : List Char} (h : Solid w) (a b : List Char) :
    dropReturn (a ++ (w ++ b)) = a ++ (w ++ dropReturn b) := by
  rcases List.eq_nil_or_concat' b with rfl | ⟨b, c, rfl⟩
  · obtain ⟨front, d, rfl, hd⟩ := h.last
    have hreturn : d ≠ '\r' := by rintro rfl; exact absurd hd (by decide)
    have hnil : dropReturn [] = [] := rfl
    rw [hnil, List.append_nil, ← List.append_assoc, dropReturn_concat, if_neg hreturn]
  · rw [← List.append_assoc, ← List.append_assoc, dropReturn_concat, dropReturn_concat]
    split <;> simp

end

/-- Where a text begins with other characters than those of a word, it does so before the word. -/
theorem exists_of_word_append {x w y lead rest : List Char} (hne : w ≠ [])
    (hw : ∀ c ∈ w, c ∉ lead) (h : x ++ (w ++ y) = lead ++ rest) :
    ∃ x', x = lead ++ x' ∧ rest = x' ++ (w ++ y) := by
  rcases List.append_eq_append_iff.1 h with ⟨m, hlead, hm⟩ | ⟨m, hx, hm⟩
  · cases m with
    | nil => exact ⟨[], by simpa using hlead.symm, by simpa using hm.symm⟩
    | cons c m =>
      obtain ⟨d, w, rfl⟩ := List.exists_cons_of_ne_nil hne
      obtain ⟨rfl, -⟩ := List.cons.inj hm
      exact absurd (hlead ▸ by simp) (hw d List.mem_cons_self)
  · exact ⟨m, hx, hm⟩

theorem exists_of_append_word {x w y rest tail : List Char} (hne : w ≠ [])
    (hw : ∀ c ∈ w, c ∉ tail) (h : x ++ (w ++ y) = rest ++ tail) :
    ∃ y', y = y' ++ tail ∧ rest = x ++ (w ++ y') := by
  rw [← List.append_assoc] at h
  rcases List.append_eq_append_iff.1 h with ⟨m, hrest, hy⟩ | ⟨m, hm, htail⟩
  · exact ⟨m, hy, by rw [hrest, List.append_assoc]⟩
  · rcases List.eq_nil_or_concat' m with rfl | ⟨m, d, rfl⟩
    · refine ⟨[], by simpa using htail.symm, ?_⟩
      rw [List.append_nil, hm, List.append_nil]
    · obtain ⟨front, e, rfl⟩ := List.eq_nil_or_concat' w |>.resolve_left hne
      have hlast : e = d := by simpa using congrArg List.getLast? hm
      exact absurd (by simp [htail, hlast]) (hw e (by simp))

end BeanDoc.Text

namespace BeanDoc.DocComment

open Text

def Accepted (cs : List Char) : Prop :=
  ∃ doc, parse (String.ofList cs) = .ok doc

theorem accepted_iff {cs : List Char} : Accepted cs ↔ ∃ inner, body cs = .ok inner ∧
    inner.IsChain (Apart '*' '/') ∧ leavesOpen false inner = false ∧
      ∀ l ∈ contentLines inner, (line? l).isSome = true := by
  have hcontent : ∀ ls : List (List Char), (∃ doc, ofContent? ls = some doc) ↔
      ∀ l ∈ ls, (line? l).isSome = true := by
    intro ls
    rw [← Option.isSome_iff_exists, ofContent?, Option.isSome_map]
    induction ls with
    | nil => simp
    | cons l ls ih =>
      rw [List.mapM_cons, List.forall_mem_cons, ← ih]
      cases line? l <;> cases ls.mapM line? <;> simp
  unfold Accepted
  simp only [parse_eq_ok_iff, String.toList_ofList, occurs_pair_eq_false_iff]
  constructor
  · rintro ⟨doc, inner, hbody, hchain, hopen, hdoc⟩
    exact ⟨inner, hbody, hchain, hopen, (hcontent _).1 ⟨doc, hdoc⟩⟩
  · rintro ⟨inner, hbody, hchain, hopen, hlines⟩
    obtain ⟨doc, hdoc⟩ := (hcontent _).2 hlines
    exact ⟨doc, inner, hbody, hchain, hopen, hdoc⟩

/-- A word that the reader takes for mere text wherever it stands in a comment. -/
structure IsPlainWord (w : List Char) : Prop where
  solid : Solid w
  chars : ∀ c ∈ w, c ≠ '*' ∧ c ≠ '/' ∧ c ≠ '{' ∧ c ≠ '@' ∧ c ≠ '\n'

section
variable {w w' a b : List Char}

theorem body_word (hw : IsPlainWord w) {inner : List Char} :
    body (a ++ (w ++ b)) = .ok inner ↔ ∃ a' b', trimStart a = ['/', '*', '*'] ++ a' ∧
      trimEnd b = b' ++ ['*', '/'] ∧ inner = a' ++ (w ++ b') := by
  rw [body_eq_ok_iff, hw.solid.trim_append]
  constructor
  · intro h
    have hstart : ∀ c ∈ w, c ∉ ['/', '*', '*'] := by
      intro c hc
      simp [hw.chars c hc]
    have hend : ∀ c ∈ w, c ∉ ['*', '/'] := by
      intro c hc
      simp [hw.chars c hc]
    obtain ⟨a', ha, hrest⟩ := exists_of_word_append hw.solid.ne_nil hstart h
    obtain ⟨b', hb, hinner⟩ := exists_of_append_word hw.solid.ne_nil hend hrest.symm
    exact ⟨a', b', ha, hb, hinner⟩
  · rintro ⟨a', b', ha, hb, rfl⟩
    simp [ha, hb]

theorem isChain_word (hw : IsPlainWord w) (ha : a.IsChain (Apart '*' '/'))
    (hb : b.IsChain (Apart '*' '/')) : (a ++ (w ++ b)).IsChain (Apart '*' '/') := by
  have hrest : ∀ v : List Char, (∀ c ∈ v, c ≠ '*' ∧ c ≠ '/') →
      (v ++ b).IsChain (Apart '*' '/') := by
    intro v hv
    induction v with
    | nil => exact hb
    | cons c v ih =>
      obtain ⟨hstar, hslash⟩ := hv c List.mem_cons_self
      exact isChain_append_separator hstar hslash List.isChain_nil
        (ih fun d hd => hv d (List.mem_cons_of_mem c hd))
  have hchars : ∀ c ∈ w, c ≠ '*' ∧ c ≠ '/' :=
    fun c hc => ⟨(hw.chars c hc).1, (hw.chars c hc).2.1⟩
  obtain ⟨c, v, rfl⟩ := List.exists_cons_of_ne_nil hw.solid.ne_nil
  obtain ⟨hstar, hslash⟩ := hchars c List.mem_cons_self
  exact isChain_append_separator hstar hslash ha
    (hrest v fun d hd => hchars d (List.mem_cons_of_mem c hd))

theorem head?_word (hw : IsPlainWord w) {c : Char} (hc : ∀ d ∈ w, d ≠ c) :
    (w ++ b).head? ≠ some c := by
  obtain ⟨d, v, rfl⟩ := List.exists_cons_of_ne_nil hw.solid.ne_nil
  simpa using hc d List.mem_cons_self

theorem leavesOpen_word (hw : ∀ c ∈ w, c ≠ '{') (inside : Bool) :
    leavesOpen inside (w ++ b) = leavesOpen (inside && !w.contains '}') b := by
  induction w generalizing inside with
  | nil => simp
  | cons c w ih =>
    have hrest := ih fun d hd => hw d (List.mem_cons_of_mem c hd)
    cases inside with
    | true =>
      rw [List.cons_append, leavesOpen, hrest]
      by_cases hc : c = '}'
      · simp [hc]
      · simp [Ne.symm hc, bne_iff_ne.2 hc]
    | false =>
      have hc : c ≠ '{' := hw c List.mem_cons_self
      rw [List.cons_append, leavesOpen, hrest]
      · simp
      · exact fun _ hopen => absurd hopen hc

theorem leavesOpen_of_inside (h : leavesOpen true b = false) : leavesOpen false b = false := by
  rw [Bool.eq_false_iff] at h ⊢
  intro hopen
  rcases leavesOpen_eq_true_iff.1 hopen with ⟨hinside, -⟩ | hlast
  · cases hinside
  · exact h (leavesOpen_eq_true_iff.2 (.inr hlast))

theorem undecorate_word (hw : IsPlainWord w) :
    undecorate (a ++ (w ++ b)) = undecorate a ++ (w ++ b) := by
  have hdrop : ∀ (c : Char) (x : List Char), (w ++ b).head? ≠ some c →
      dropOne c (x ++ (w ++ b)) = dropOne c x ++ (w ++ b) := by
    intro c x hc
    cases x with
    | nil =>
      rw [List.nil_append]
      cases hwb : w ++ b with
      | nil => rfl
      | cons d v =>
        have hd : d ≠ c := by simpa [hwb] using hc
        simp [dropOne, hd]
    | cons d x =>
      by_cases hd : d = c <;> simp [dropOne, hd]
  have hspace : (w ++ b).head? ≠ some ' ' := by
    obtain ⟨d, v, hwd, hd⟩ := hw.solid.first
    rw [hwd, List.cons_append, List.head?_cons]
    rintro ⟨⟩
    exact absurd hd (by decide)
  have hstar : (w ++ b).head? ≠ some '*' := head?_word hw fun c hc => (hw.chars c hc).1
  rw [undecorate, hw.solid.trimStart_append, hdrop '*' _ hstar, hdrop ' ' _ hspace, undecorate]

theorem line?_isSome_replace (hw : IsPlainWord w) (hw' : IsPlainWord w') (hrun : '@' ∉ lastRun a)
    (h : (line? (a ++ (w ++ b))).isSome = true) : (line? (a ++ (w' ++ b))).isSome = true := by
  rw [line?_isSome_iff, hw.solid.trim_append] at h
  rw [line?_isSome_iff, hw'.solid.trim_append]
  intro source hsource
  have hmark : ∀ c ∈ w', c ∉ ['@'] := fun c hc => by simp [hw'.chars c hc]
  obtain ⟨x, hx, rfl⟩ := exists_of_word_append hw'.solid.ne_nil hmark
    (hsource.trans (List.singleton_append).symm)
  -- the name ends before the word, since the word is not in the run that starts with `@`
  have hsuffix : '@' :: x <:+ a := by
    rw [← List.singleton_append, ← hx]
    exact List.dropWhile_suffix _
  have hcut : ∃ name s more, isBlank s = true ∧ x = name ++ s :: more ∧
      ∀ c ∈ name, isBlank c = false := by
    obtain ⟨hname, ⟨hself, -⟩ | ⟨s, hs, hsplit⟩⟩ := cutWhere_cases isBlank x
    · refine absurd (mem_lastRun_of_suffix hsuffix ?_) hrun
      rw [lastRun_eq_self]
      · exact List.mem_cons_self
      · rw [← hself] at hname
        exact List.forall_mem_cons.2 ⟨by decide, hname⟩
    · exact ⟨_, s, _, hs, hsplit, hname⟩
  obtain ⟨name, s, more, hs, rfl, hname⟩ := hcut
  have hfirst : ∀ v, cutWhere isBlank (name ++ s :: more ++ v) = (name, more ++ v) := by
    intro v
    rw [List.append_assoc, List.cons_append, cutWhere_append hname hs]
  obtain ⟨htag, -⟩ := h (name ++ s :: more ++ (w ++ trimEnd b)) (by rw [hx]; rfl)
  rw [hfirst] at htag ⊢
  refine ⟨htag, fun _ => ?_⟩
  rw [hw'.solid.trim_append]
  simp [hw'.solid.ne_nil]

theorem exists_contentLines_word (ha : '\n' ∉ a) (b : List Char) : ∃ first more, ∀ w,
    IsPlainWord w → contentLines (a ++ (w ++ b)) = (undecorate a ++ (w ++ first)) :: more := by
  have hnot : ∀ {w l}, IsPlainWord w → '\n' ∉ l → '\n' ∉ a ++ (w ++ l) := by
    intro w l hw hl
    have hword : '\n' ∉ w := fun hmem => (hw.chars '\n' hmem).2.2.2.2 rfl
    simp [ha, hword, hl]
  by_cases hb : '\n' ∈ b
  · obtain ⟨l, rest, rfl, hl⟩ := List.eq_append_cons_of_mem hb
    refine ⟨dropReturn l, contentLines rest, fun w hw => ?_⟩
    have hsplit : a ++ (w ++ (l ++ '\n' :: rest)) = a ++ (w ++ l) ++ '\n' :: rest := by simp
    rw [hsplit, contentLines, lines_append_newline (hnot hw hl), List.map_cons,
      hw.solid.dropReturn_append, undecorate_word hw, contentLines]
  · refine ⟨b, [], fun w hw => ?_⟩
    rw [contentLines_of_not_mem (hnot hw hb) (by simp [hw.solid.ne_nil]), undecorate_word hw]

theorem contentLines_replace (hw : IsPlainWord w) (hw' : IsPlainWord w') (hrun : '@' ∉ lastRun a)
    (h : ∀ l ∈ contentLines (a ++ (w ++ b)), (line? l).isSome = true) :
    ∀ l ∈ contentLines (a ++ (w' ++ b)), (line? l).isSome = true := by
  induction a using line_induction with
  | last a ha =>
    obtain ⟨first, more, hlines⟩ := exists_contentLines_word ha b
    rw [hlines w hw, List.forall_mem_cons] at h
    rw [hlines w' hw', List.forall_mem_cons]
    refine ⟨line?_isSome_replace hw hw' (fun hmem => hrun ?_) h.1, h.2⟩
    exact mem_lastRun_of_suffix (undecorate_suffix a) hmem
  | line l rest hl ih =>
    have hbreak : ∀ v, contentLines (l ++ '\n' :: rest ++ v) =
        undecorate (dropReturn l) :: contentLines (rest ++ v) := by
      intro v
      rw [contentLines, List.append_assoc, List.cons_append, lines_append_newline hl, List.map_cons,
        contentLines]
    rw [hbreak, List.forall_mem_cons] at h ⊢
    refine ⟨h.1, ih (fun hmem => hrun ?_) h.2⟩
    exact mem_lastRun_of_suffix ⟨l ++ ['\n'], by simp⟩ hmem

/-- A word that stands behind no `@` and closes no inline tag can be replaced. -/
theorem accepted_replace (hw : IsPlainWord w) (hw' : IsPlainWord w') (hclose : '}' ∉ w)
    (hrun : '@' ∉ lastRun a) (h : Accepted (a ++ (w ++ b))) : Accepted (a ++ (w' ++ b)) := by
  obtain ⟨inner, hbody, hchain, hopen, hlines⟩ := accepted_iff.1 h
  obtain ⟨a', b', ha, hb, rfl⟩ := (body_word hw).1 hbody
  have hsuffix : a' <:+ a := by
    have hpart : a' <:+ trimStart a := by
      rw [ha]
      exact List.suffix_append _ _
    exact hpart.trans (List.dropWhile_suffix _)
  refine accepted_iff.2 ⟨a' ++ (w' ++ b'), (body_word hw').2 ⟨a', b', ha, hb, rfl⟩, ?_, ?_, ?_⟩
  · have hbefore : a'.IsChain (Apart '*' '/') := hchain.infix (List.prefix_append _ _).isInfix
    have hafter : b'.IsChain (Apart '*' '/') := hchain.infix ⟨a' ++ w, [], by simp⟩
    exact isChain_word hw' hbefore hafter
  · have hword : ∀ {v}, IsPlainWord v → leavesOpen false (a' ++ (v ++ b')) =
        leavesOpen (leavesOpen false a' && !v.contains '}') b' := by
      intro v hv
      have hhead := head?_word (b := b') hv fun c hc => (hv.chars c hc).2.2.2.1
      rw [leavesOpen_append hhead, leavesOpen_word fun c hc => (hv.chars c hc).2.2.1]
    have hcontains : w.contains '}' = false := by simpa using hclose
    rw [hword hw, hcontains, Bool.not_false, Bool.and_true] at hopen
    rw [hword hw']
    -- a further `}` in the new word closes what was open, and does no harm otherwise
    cases hopened : leavesOpen false a' with
    | false => rwa [hopened] at hopen
    | true =>
      rw [hopened] at hopen
      cases w'.contains '}' with
      | false => exact hopen
      | true => exact leavesOpen_of_inside hopen
  · exact contentLines_replace hw hw' (fun hmem => hrun (mem_lastRun_of_suffix hsuffix hmem)) hlines

end

end BeanDoc.DocComment
