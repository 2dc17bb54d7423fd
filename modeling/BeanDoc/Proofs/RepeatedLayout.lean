import BeanDoc.Proofs.LayoutMeaning

/-! Laying out a comment twice. The second layout reads the decoration that the first one wrote and
finds the same lines again, unless the first one wrote a line that has no decoration and begins with
a `*`. -/

namespace BeanDoc.DocComment

open Text

section
variable {inner : List Char}

theorem dropBlankEnds_append {pre post : List (List Char)} (hpre : ∀ l ∈ pre, allBlank l = true)
    (hpost : ∀ l ∈ post, allBlank l = true) (ls : List (List Char)) :
    dropBlankEnds (pre ++ (ls ++ post)) = dropBlankEnds ls := by
  have hrev : ∀ l ∈ post.reverse, allBlank l = true :=
    fun l hl => hpost l (List.mem_reverse.1 hl)
  rw [dropBlankEnds, List.dropWhile_append_of_pos hpre, List.dropWhile_append, dropBlankEnds]
  cases ls.dropWhile allBlank with
  | nil => simp [List.dropWhile_eq_nil_iff.2 hpost]
  | cons k ks => simp [List.dropWhile_append_of_pos hrev]

theorem dropBlankEnds_bodyLines (inner : List Char) :
    dropBlankEnds (bodyLines inner) = bodyLines inner := by
  obtain ⟨pre, post, hpre, hpost, hsplit⟩ :=
    exists_eq_dropBlankEnds ((contentLines inner).map trimEnd)
  rw [bodyLines]
  conv_rhs => rw [hsplit, dropBlankEnds_append hpre hpost]

theorem trimEnd_decorated {l : List Char} (h : trimEnd l = l) : trimEnd (decorated l) = l := by
  unfold decorated
  split
  · next hblank => rw [← h, trimEnd_eq_nil_iff.2 hblank]; rfl
  · exact h

theorem bodyLines_decorate {ls : List (List Char)} (h : ∀ l ∈ ls, '\n' ∉ l ∧ trimEnd l = l) :
    bodyLines ([] ++ '\n' :: (ls.flatMap decorate ++ [' '])) = dropBlankEnds ls := by
  have hkeep : ls.map (trimEnd ∘ decorated) = ls.map id :=
    List.map_congr_left fun l hl => trimEnd_decorated (h l hl).2
  have hlines : (contentLines ([] ++ '\n' :: (ls.flatMap decorate ++ [' ']))).map trimEnd =
      [[]] ++ (ls ++ [[]]) := by
    rw [contentLines_newline_decorate h, List.map_cons, List.map_append, List.map_map, hkeep,
      List.map_id]
    rfl
  have hblank : ∀ l ∈ [([] : List Char)], allBlank l = true := by simp [allBlank]
  rw [bodyLines, hlines, dropBlankEnds_append hblank hblank]

theorem bodyLines_laidOut_lines (h : bodyLines inner ≠ []) (hn : '\n' ∈ inner) :
    bodyLines (laidOut inner) = bodyLines inner := by
  rw [laidOut_lines h hn, bodyLines_decorate fun l hl => (mem_bodyLines hl).2,
    dropBlankEnds_bodyLines]

theorem laidOut_laidOut_lines (hn : '\n' ∈ inner) : laidOut (laidOut inner) = laidOut inner := by
  by_cases h : bodyLines inner = []
  · rw [laidOut_blank h]
    decide
  · have hnewline : '\n' ∈ laidOut inner := by
      rw [laidOut_lines h hn]
      exact List.mem_cons_self
    have hlines := bodyLines_laidOut_lines h hn
    rw [laidOut_lines (hlines ▸ h) hnewline, hlines, laidOut_lines h hn]

theorem length_laidOut_one_line (hn : '\n' ∉ inner) :
    (laidOut inner).length ≤ (trim (undecorate inner)).length + 2 := by
  cases h : trim (undecorate inner) with
  | nil => simp [laidOut_blank (bodyLines_blank_line hn h)]
  | cons c rest => simp [laidOut_one_line hn h]

theorem trim_undecorate_laidOut (hn : '\n' ∉ inner) {c : Char} {rest : List Char}
    (h : trim (undecorate inner) = c :: rest) :
    trim (undecorate (laidOut inner)) = if c = '*' then trim rest else c :: rest := by
  have hspace : allBlank [' '] = true := by decide
  rw [undecorate_laidOut_one_line hn h, trim_dropOne_space]
  split
  · exact trim_append_blank hspace rest
  · rw [trim_append_blank hspace, ← h, trim_trim]

theorem laidOut_laidOut_one_line_iff (hn : '\n' ∉ inner) :
    laidOut (laidOut inner) = laidOut inner ↔ ¬ ∃ rest, trim (undecorate inner) = '*' :: rest := by
  cases h : trim (undecorate inner) with
  | nil =>
    rw [laidOut_blank (bodyLines_blank_line hn h)]
    exact iff_of_true (by decide) (by simp)
  | cons c rest =>
    have hn' := newline_not_mem_laidOut hn h
    have htext := trim_undecorate_laidOut hn h
    by_cases hc : c = '*'
    · subst hc
      refine iff_of_false (fun heq => ?_) (by simp)
      -- the second layout is shorter, since it has lost the `*`
      have hshort := length_laidOut_one_line hn'
      have htrim := (trim_isInfix rest).length_le
      rw [heq, htext, if_pos rfl, laidOut_one_line hn h] at hshort
      simp only [List.nil_append, List.length_cons, List.length_append, List.length_nil] at hshort
      omega
    · rw [if_neg hc] at htext
      refine iff_of_true ?_ (by simpa using hc)
      rw [laidOut_one_line hn' htext, laidOut_one_line hn h]

end

theorem layout_layout_eq_iff_laidOut {text : String} {inner : List Char}
    (h : body text.toList = .ok inner) :
    layout (layout text) = layout text ↔ laidOut (laidOut inner) = laidOut inner := by
  have hblock : ∀ t k, body t.toList = .ok k →
      layout t = String.ofList (['/', '*', '*'] ++ laidOut k ++ ['*', '/']) := by
    intro t k hk
    rw [layout, hk]
    exact congrArg String.ofList (layoutBody_eq_block k)
  rw [hblock _ _ (body_layout h), hblock _ _ h]
  constructor
  · intro heq
    exact List.append_cancel_left (List.append_cancel_right (String.ofList_injective heq))
  · exact fun heq => by rw [heq]

/-- Layout changes nothing the second time, exactly if the text is no starred line. -/
theorem layout_idempotent_iff (text : String) :
    (layout (layout text) = layout text ↔ ¬ StarredLine text) ∧
      ((∀ inner, body text.toList ≠ .ok inner) → layout (layout text) = layout text) ∧
      ∀ inner, body text.toList = .ok inner → '\n' ∈ inner →
        layout (layout text) = layout text := by
  cases hbody : body text.toList with
  | error f =>
    have hkept : layout text = text := by rw [layout, hbody]
    have hlayout : layout (layout text) = layout text := by rw [hkept, hkept]
    have hstarred : ¬ StarredLine text := by simp [StarredLine, hbody]
    exact ⟨iff_of_true hlayout hstarred, fun _ => hlayout, by simp⟩
  | ok inner =>
    have hlines : '\n' ∈ inner → layout (layout text) = layout text := fun hn =>
      (layout_layout_eq_iff_laidOut hbody).2 (laidOut_laidOut_lines hn)
    refine ⟨?_, by simp, by simpa using hlines⟩
    rw [starredLine_iff hbody]
    by_cases hn : '\n' ∈ inner
    · exact iff_of_true (hlines hn) fun hline => hline.1 hn
    · rw [layout_layout_eq_iff_laidOut hbody, laidOut_laidOut_one_line_iff hn]
      simp [hn]

example : layout "/** **x */" = "/** *x */" ∧ layout "/** *x */" = "/** x */" := by
  decide +kernel

end BeanDoc.DocComment
