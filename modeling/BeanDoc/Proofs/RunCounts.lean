import BeanDoc.Proofs.RunComments

/-! The counts of a completed run. An edit that the class rejects is counted twice, as a comment
that was added or replaced and as one that failed, so the counts are exact if and only if every
rendered text is a documentation comment. -/

namespace BeanDoc

def Counts.total (n : Counts) : Nat :=
  n.inserted + n.replaced + n.skipped + n.failed

def Edit.isDocumentation (e : Edit) : Bool :=
  (DocComment.parse e.comment).isOk

theorem ClassModel.length_rejections (c : ClassModel) (es : List Edit) :
    (c.takeEdits es).2.length = es.countP fun e => (c.editFault? e).isSome := by
  rw [takeEdits_rejections, List.length_filterMap_eq_countP]
  simp only [Option.isSome_map]

section
variable {category : Accessor.Category} {select : Selector} {templates : Templates}
  {projectName : String} {c : ClassModel} {s : Selection}

theorem editFault?_isSome_of_mem_edits {e : Edit}
    (he : e ∈ (generateSelection c templates projectName s).edits) :
    (c.editFault? e).isSome = !e.isDocumentation := by
  rcases (goesByText_after he []).editFault?_eq with ⟨doc, hparse, hfault⟩ | ⟨f, hparse, hfault⟩
  · rw [Edit.isDocumentation, hparse]
    exact congrArg Option.isSome hfault
  · rw [Edit.isDocumentation, hparse]
    exact congrArg Option.isSome hfault

theorem length_rejections_generateSelection :
    (c.takeEdits (generateSelection c templates projectName s).edits).2.length =
      (generateSelection c templates projectName s).edits.countP (!·.isDocumentation) := by
  rw [ClassModel.length_rejections]
  exact List.countP_congr fun e he => by rw [editFault?_isSome_of_mem_edits he]

end

/-- The counts of a completed run: comments that are said to be added or replaced exceed those in
the class by the rejected ones, and the total exceeds the number of selected accessors by as
many. Both agree just when each rendered text is a documentation comment. -/
theorem counts_exact_iff (category : Accessor.Category) (select : Selector) (templates : Templates)
    (projectName : String) (c : ClassModel)
    (h : (run category select templates projectName c).2.status = .completed) :
    let r := (run category select templates projectName c).2
    ∃ s, select c (c.candidates category) = some s ∧
      r.event = some (.commentsGenerated c.name r.counts) ∧
      r.applied = r.outcome.edits.countP (·.isDocumentation) ∧
      r.counts.inserted + r.counts.replaced =
        r.applied + r.outcome.edits.countP (!·.isDocumentation) ∧
      r.counts.total =
        s.methods.countP c.isAccessorAt + r.outcome.edits.countP (!·.isDocumentation) ∧
      ((r.counts.inserted + r.counts.replaced = r.applied ∧
        r.counts.total = s.methods.countP c.isAccessorAt) ↔
          ∀ e ∈ r.outcome.edits, e.isDocumentation = true) := by
  obtain ⟨hi, hc, s, hs⟩ := selected_of_completed h
  rw [run_eq_of_selected hi hc hs]
  let o := generateSelection c templates projectName s
  let rejected := o.edits.countP (!·.isDocumentation)
  have hsize : o.edits.length + o.skipped.length + o.failures.length =
      s.methods.countP c.isAccessorAt := size_generateSelection
  have hmodes : o.inserted + o.replaced = o.edits.length := o.inserted_add_replaced
  have hsplit : o.edits.length = o.edits.countP (·.isDocumentation) + rejected := by
    simpa using List.length_eq_countP_add_countP (l := o.edits) (·.isDocumentation)
  have hrejections : (c.takeEdits o.edits).2.length = rejected :=
    length_rejections_generateSelection
  have hnone : rejected = 0 ↔ ∀ e ∈ o.edits, e.isDocumentation = true := by
    simp [rejected, List.countP_eq_zero]
  -- from here on it is arithmetic on the lengths of the lists
  refine ⟨s, hs, rfl, ?_, ?_, ?_, ?_⟩
  · show o.edits.length - (c.takeEdits o.edits).2.length = o.edits.countP (·.isDocumentation)
    omega
  · show o.inserted + o.replaced = o.edits.length - (c.takeEdits o.edits).2.length + rejected
    omega
  · show o.inserted + o.replaced + o.skipped.length +
      (o.failures.length + (c.takeEdits o.edits).2.length) = _ + rejected
    omega
  · rw [← hnone]
    show (o.inserted + o.replaced = o.edits.length - (c.takeEdits o.edits).2.length ∧
      o.inserted + o.replaced + o.skipped.length +
        (o.failures.length + (c.takeEdits o.edits).2.length) = _) ↔ _
    omega

def halfDocumented : Report :=
  (run .accessors (.all false) { getter := "Bar", setter := "/** Bar. */" } "demo"
    { name := "Foo"
      methods := [
        { name := "getBar", returnType := some "int" },
        { name := "setBar", parameters := [⟨"bar", "int"⟩] }] }).2

theorem halfDocumented_completed :
    halfDocumented.status = .completed ∧
      halfDocumented.counts.inserted + halfDocumented.counts.replaced =
        halfDocumented.applied + halfDocumented.outcome.edits.countP (!·.isDocumentation) := by
  have h : halfDocumented.status = .completed := by decide +kernel
  obtain ⟨s, -, -, -, hcounts, -⟩ := counts_exact_iff _ _ _ _ _ h
  exact ⟨h, hcounts⟩

/-- The comment of the getter is rejected and yet counted as added, so that two accessors make a
total of three. -/
theorem halfDocumented_counts :
    halfDocumented.event = some (.commentsGenerated "Foo" ⟨2, 0, 0, 1⟩) ∧
      halfDocumented.applied = 1 := by
  decide +kernel

end BeanDoc
