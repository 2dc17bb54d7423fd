import BeanDoc.Proofs.EditedClass
import BeanDoc.Proofs.GeneratedEdits

/-! The comments a run leaves behind. A run over a class that is offered and selected from gives a
comment to each selected accessor that may have one and whose text is a documentation comment;
everything else stays as it was. -/

namespace BeanDoc

section
variable {category : Accessor.Category} {select : Selector} {templates : Templates}
  {projectName : String} {c : ClassModel} {s : Selection}

theorem run_of_isInterface (hi : c.isInterface = true) :
    run category select templates projectName c = (c, { status := .noClass }) := by
  simp [run, ClassModel.subject, hi]

theorem run_of_candidates_eq_nil (hi : c.isInterface = false) (hc : c.candidates category = []) :
    run category select templates projectName c =
      (c, { status := .noCandidates, className := some c.name }) := by
  simp [run, ClassModel.subject, hi, hc]

theorem run_of_cancelled (hi : c.isInterface = false) (hc : c.candidates category ≠ [])
    (hs : select c (c.candidates category) = none) :
    run category select templates projectName c =
      (c, { status := .cancelled, className := some c.name }) := by
  simp [run, ClassModel.subject, hi, hc, hs]

theorem run_eq_of_selected (hi : c.isInterface = false) (hc : c.candidates category ≠ [])
    (hs : select c (c.candidates category) = some s) :
    run category select templates projectName c =
      let outcome := generateSelection c templates projectName s
      ((c.takeEdits outcome.edits).1,
        ⟨.completed, some c.name, outcome, (c.takeEdits outcome.edits).2⟩) := by
  simp [run, ClassModel.subject, hi, hc, hs]

theorem run_of_not_selected
    (h : c.isInterface = true ∨ c.candidates category = [] ∨
      select c (c.candidates category) = none) :
    (run category select templates projectName c).1 = c ∧
      (run category select templates projectName c).2.outcome = {} ∧
      (run category select templates projectName c).2.rejections = [] := by
  cases hi : c.isInterface with
  | true =>
    rw [run_of_isInterface hi]
    exact ⟨rfl, rfl, rfl⟩
  | false =>
    by_cases hc : c.candidates category = []
    · rw [run_of_candidates_eq_nil hi hc]
      exact ⟨rfl, rfl, rfl⟩
    · have hs : select c (c.candidates category) = none := by simpa [hi, hc] using h
      rw [run_of_cancelled hi hc hs]
      exact ⟨rfl, rfl, rfl⟩

theorem run_eq_self
    (h : c.isInterface = true ∨ c.candidates category = [] ∨
      select c (c.candidates category) = none) :
    (run category select templates projectName c).1 = c :=
  (run_of_not_selected h).1

theorem ClassModel.isEnabled_iff :
    c.isEnabled category = true ↔ c.isInterface = false ∧ c.candidates category ≠ [] := by
  unfold isEnabled subject
  cases c.isInterface <;> simp

theorem ClassModel.isEnabled_eq_false_iff :
    c.isEnabled category = false ↔ c.isInterface = true ∨ c.candidates category = [] := by
  rw [← Bool.not_eq_true, isEnabled_iff]
  cases c.isInterface <;> simp

theorem run_status : (run category select templates projectName c).2.status =
    if c.isEnabled category then
      if (select c (c.candidates category)).isSome then .completed else .cancelled
    else if c.isInterface then .noClass else .noCandidates := by
  cases hi : c.isInterface with
  | true =>
    have hoff : c.isEnabled category = false := ClassModel.isEnabled_eq_false_iff.2 (.inl hi)
    rw [run_of_isInterface hi, hoff]
    rfl
  | false =>
    by_cases hc : c.candidates category = []
    · have hoff : c.isEnabled category = false := ClassModel.isEnabled_eq_false_iff.2 (.inr hc)
      rw [run_of_candidates_eq_nil hi hc, hoff]
      rfl
    · have hon : c.isEnabled category = true := ClassModel.isEnabled_iff.2 ⟨hi, hc⟩
      cases hs : select c (c.candidates category) with
      | none =>
        rw [run_of_cancelled hi hc hs, hon]
        rfl
      | some s =>
        rw [run_eq_of_selected hi hc hs, hon]
        rfl

theorem selected_of_completed
    (h : (run category select templates projectName c).2.status = .completed) :
    c.isInterface = false ∧ c.candidates category ≠ [] ∧
      ∃ s, select c (c.candidates category) = some s := by
  rw [run_status] at h
  split at h
  · next hon =>
    obtain ⟨hi, hc⟩ := ClassModel.isEnabled_iff.1 hon
    split at h
    · next hs => exact ⟨hi, hc, Option.isSome_iff_exists.1 hs⟩
    · cases h
  · split at h <;> cases h

end

theorem exists_selection_of_run (category : Accessor.Category) (select : Selector)
    (templates : Templates) (projectName : String) (c : ClassModel) :
    ∃ s : Selection,
      let outcome := generateSelection c templates projectName s
      (run category select templates projectName c).1 = (c.takeEdits outcome.edits).1 ∧
        (run category select templates projectName c).2.outcome = outcome ∧
        (run category select templates projectName c).2.rejections =
          (c.takeEdits outcome.edits).2 := by
  by_cases h : c.isInterface = true ∨ c.candidates category = [] ∨
      select c (c.candidates category) = none
  · exact ⟨⟨[], false⟩, run_of_not_selected h⟩
  · obtain ⟨hi, hc, hs⟩ := by simpa only [not_or] using h
    obtain ⟨s, hs⟩ := Option.ne_none_iff_exists'.1 hs
    rw [run_eq_of_selected (by simpa using hi) hc hs]
    exact ⟨s, rfl, rfl, rfl⟩

theorem exists_takeEdits_of_run (category : Accessor.Category) (select : Selector)
    (templates : Templates) (projectName : String) (c : ClassModel) :
    ∃ es, (run category select templates projectName c).1 = (c.takeEdits es).1 := by
  obtain ⟨s, hclass, -⟩ := exists_selection_of_run category select templates projectName c
  exact ⟨_, hclass⟩

/-- What it takes for the method `m` at index `i` to get a comment from the rendered `text`. -/
structure Documents (c : ClassModel) (templates : Templates) (projectName : String) (s : Selection)
    (i : Nat) (m : Method) (text : String) : Prop where
  selected : i ∈ s.methods
  free : m.comment = none ∨ s.overwrite = true
  rendered : ∃ k, m.kind = TemplateKind.accessorKind k ∧
    Template.render (templates.get k) (.forMethod c m projectName) = .ok text
  accepted : ∃ doc, DocComment.parse text = .ok doc

theorem isOk_iff_exists {ε α : Type} {x : Except ε α} : x.isOk = true ↔ ∃ a, x = .ok a := by
  cases x <;> simp [Except.isOk, Except.toBool]

theorem toOption_eq_some_iff {ε α : Type} {x : Except ε α} {a : α} :
    x.toOption = some a ↔ x = .ok a := by
  cases x <;> simp [Except.toOption]

theorem TemplateKind.accessorKind_injective {k l : TemplateKind}
    (h : k.accessorKind = l.accessorKind) : k = l := by
  cases k <;> cases l <;> simp_all [accessorKind]

section
variable {c : ClassModel} {templates : Templates} {projectName : String} {s : Selection} {i : Nat}
  {m : Method}

theorem Documents.text_unique {text text' : String}
    (h : Documents c templates projectName s i m text)
    (h' : Documents c templates projectName s i m text') : text = text' := by
  obtain ⟨k, hk, hr⟩ := h.rendered
  obtain ⟨l, hl, hr'⟩ := h'.rendered
  obtain rfl := TemplateKind.accessorKind_injective (hk.symm.trans hl)
  exact Except.ok.inj (hr.symm.trans hr')

/-- Whatever edits the class has taken before, a generated one is not stale. -/
theorem goesByText_after {e : Edit} (he : e ∈ (generateSelection c templates projectName s).edits)
    (es : List Edit) : (c.takeEdits es).1.GoesByText e := by
  obtain ⟨i, -, m, k, text, hm, -, -, -, rfl⟩ := mem_edits_generateSelection.1 he
  obtain ⟨n, hn, hname⟩ := ClassModel.exists_method_after hm es
  exact ClassModel.goesByText_of_name_eq hn hname

theorem documents_iff_mem_edits (hm : c.methods[i]? = some m) {text : String} :
    Documents c templates projectName s i m text ↔
      ∃ e ∈ (generateSelection c templates projectName s).edits,
        e.method = i ∧ m.Takes e ∧ e.comment = text := by
  simp only [mem_edits_generateSelection]
  constructor
  · rintro ⟨hi, hfree, ⟨k, hk, hr⟩, haccepted⟩
    exact ⟨m.editWith i text, ⟨i, hi, m, k, text, hm, hk, hfree, hr, rfl⟩, rfl,
      ⟨rfl, isOk_iff_exists.2 haccepted⟩, rfl⟩
  · rintro ⟨e, ⟨j, hj, n, k, t, hn, hk, hfree, hr, rfl⟩, rfl, htakes, rfl⟩
    obtain rfl : m = n := Option.some.inj (hm.symm.trans hn)
    exact ⟨hj, hfree, ⟨k, hk, hr⟩, isOk_iff_exists.1 htakes.2⟩

theorem takeEdits_comment_of_documents (hm : c.methods[i]? = some m) {text : String}
    (h : Documents c templates projectName s i m text) :
    (m.takeEdits i (generateSelection c templates projectName s).edits).comment =
      some (DocComment.layout text) := by
  have hsame : ∀ e ∈ (generateSelection c templates projectName s).edits,
      e.method = i → m.Takes e → e.comment = text :=
    fun e he hi ht => ((documents_iff_mem_edits hm).2 ⟨e, he, hi, ht, rfl⟩).text_unique h
  obtain ⟨e, he, hi, ht, -⟩ := (documents_iff_mem_edits hm).1 h
  rw [Method.takeEdits_eq_of_same_text hsame ⟨e, he, hi, ht⟩]

theorem takeEdits_comment_of_not_documents (hm : c.methods[i]? = some m)
    (h : ∀ text, ¬ Documents c templates projectName s i m text) :
    (m.takeEdits i (generateSelection c templates projectName s).edits).comment = m.comment := by
  rw [Method.takeEdits_eq_self]
  exact fun e he hi ht => h e.comment ((documents_iff_mem_edits hm).2 ⟨e, he, hi, ht, rfl⟩)

end

/-- A run changes nothing but comments. If there is a selection, a method gets the laid out text
that documents it, and keeps what it has if there is none; otherwise the class stays the same. -/
theorem run_comments (category : Accessor.Category) (select : Selector) (templates : Templates)
    (projectName : String) (c : ClassModel) :
    ∃ comments : Nat → Option String,
      (run category select templates projectName c).1 =
        { c with methods := c.methods.mapIdx fun i m => { m with comment := comments i } } ∧
      (∀ s, c.isInterface = false → c.candidates category ≠ [] →
        select c (c.candidates category) = some s → ∀ i m, c.methods[i]? = some m →
          (∀ text, Documents c templates projectName s i m text →
            comments i = some (DocComment.layout text)) ∧
          ((∀ text, ¬ Documents c templates projectName s i m text) → comments i = m.comment)) ∧
      (c.isInterface = true ∨ c.candidates category = [] ∨
        select c (c.candidates category) = none →
          (run category select templates projectName c).1 = c) := by
  obtain ⟨es, hes⟩ := exists_takeEdits_of_run category select templates projectName c
  rw [ClassModel.takeEdits_class] at hes
  let d := (run category select templates projectName c).1
  have hd : ∀ i, d.methods[i]? = (c.methods[i]?).map (Method.takeEdits i · es) := by
    intro i
    simp only [d, hes, List.getElem?_mapIdx]
  -- the comments are read off the class after the run; method by method it has taken edits only
  refine ⟨fun i => (d.methods[i]?).bind (·.comment), ?_, ?_, run_eq_self⟩
  · rw [hes]
    simp only [ClassModel.mk.injEq, true_and]
    refine List.ext_getElem? fun i => ?_
    rw [List.getElem?_mapIdx, List.getElem?_mapIdx]
    cases hm : c.methods[i]? with
    | none => rfl
    | some m =>
      simp only [hd, hm, Option.map_some, Option.bind_some]
      rw [← Method.takeEdits_eq_withComment]
  · intro s hi hc hs i m hm
    have hcomment : (d.methods[i]?).bind (·.comment) =
        (m.takeEdits i (generateSelection c templates projectName s).edits).comment := by
      simp only [d, run_eq_of_selected hi hc hs, ClassModel.takeEdits_class, List.getElem?_mapIdx,
        hm, Option.map_some, Option.bind_some]
    exact ⟨fun text h => hcomment.trans (takeEdits_comment_of_documents hm h),
      fun h => hcomment.trans (takeEdits_comment_of_not_documents hm h)⟩

end BeanDoc
