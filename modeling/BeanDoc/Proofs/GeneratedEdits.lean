import BeanDoc.Run

/-! What generation makes of a selection. Every selected method leads to one edit, one skipped
method or one failure, and an edit carries the text rendered for its method. -/

namespace BeanDoc

namespace Outcome

@[simp]
theorem edits_append (a b : Outcome) : (a ++ b).edits = a.edits ++ b.edits := rfl

@[simp]
theorem skipped_append (a b : Outcome) : (a ++ b).skipped = a.skipped ++ b.skipped := rfl

@[simp]
theorem failures_append (a b : Outcome) : (a ++ b).failures = a.failures ++ b.failures := rfl

def size (o : Outcome) : Nat :=
  o.edits.length + o.skipped.length + o.failures.length

theorem size_append (a b : Outcome) : (a ++ b).size = a.size + b.size := by
  simp only [size, edits_append, skipped_append, failures_append, List.length_append]
  omega

theorem size_ofGenerated (g : Generated) : (ofGenerated g).size = 1 := by
  cases g <;> rfl

theorem inserted_add_replaced (o : Outcome) : o.inserted + o.replaced = o.edits.length := by
  have hmode : (fun e : Edit => e.mode == .replace) = fun e => decide ¬ (e.mode == .insert) := by
    funext e
    cases e.mode <;> rfl
  rw [inserted, replaced, hmode, ← List.countP_eq_length_filter, ← List.countP_eq_length_filter]
  exact (List.length_eq_countP_add_countP _).symm

end Outcome

section
variable {c : ClassModel} {template projectName : String} {overwrite : Bool} {selected : List Nat}

theorem generate_cons (i : Nat) (is : List Nat) :
    generate c template projectName overwrite (i :: is) =
      .ofGenerated (generateOne c template projectName overwrite i) ++
        generate c template projectName overwrite is := rfl

theorem size_generate :
    (generate c template projectName overwrite selected).size = selected.length := by
  induction selected with
  | nil => rfl
  | cons i is ih =>
    rw [generate_cons, Outcome.size_append, Outcome.size_ofGenerated, ih, List.length_cons]
    omega

theorem mem_edits_generate {e : Edit} :
    e ∈ (generate c template projectName overwrite selected).edits ↔
      ∃ i ∈ selected, generateOne c template projectName overwrite i = .edit e := by
  induction selected with
  | nil => simp [generate]
  | cons i is ih =>
    rw [generate_cons, Outcome.edits_append, List.mem_append, ih]
    have hhead : e ∈ (Outcome.ofGenerated (generateOne c template projectName overwrite i)).edits ↔
        generateOne c template projectName overwrite i = .edit e := by
      cases generateOne c template projectName overwrite i <;>
        simp [Outcome.ofGenerated, eq_comm]
    simp [hhead]

def Method.editWith (m : Method) (i : Nat) (text : String) : Edit :=
  ⟨i, m.name, text, if m.hasComment then .replace else .insert⟩

theorem generateOne_eq_edit_iff {i : Nat} {e : Edit} :
    generateOne c template projectName overwrite i = .edit e ↔
      ∃ m text, c.methods[i]? = some m ∧ (m.comment = none ∨ overwrite = true) ∧
        Template.render template (.forMethod c m projectName) = .ok text ∧
        e = m.editWith i text := by
  unfold generateOne
  cases hm : c.methods[i]? with
  | none => simp
  | some m =>
    by_cases hfree : m.comment = none ∨ overwrite = true
    · have hnot : (m.hasComment && !overwrite) = false := by
        rcases hfree with hnone | hover
        · simp [Method.hasComment, hnone]
        · simp [hover]
      cases hr : Template.render template (.forMethod c m projectName) with
      | error f => simp [hnot, hr]
      | ok text =>
        have hedit : (Generated.edit (m.editWith i text) = .edit e) ↔ e = m.editWith i text := by
          rw [Generated.edit.injEq, eq_comm]
        simpa [hnot, hr, hfree, Method.editWith] using hedit
    · have hskip : (m.hasComment && !overwrite) = true := by
        simpa [Method.hasComment, Option.isSome_iff_ne_none] using hfree
      simp [hskip, hfree]

end

theorem ClassModel.mem_ofKind {c : ClassModel} {k : Accessor.Kind} {selected : List Nat} {i : Nat} :
    i ∈ c.ofKind k selected ↔ i ∈ selected ∧ ∃ m, c.methods[i]? = some m ∧ m.kind = k := by
  simp [ClassModel.ofKind, Option.any_eq_true]

def ClassModel.isAccessorAt (c : ClassModel) (i : Nat) : Bool :=
  (c.methods[i]?).any fun m => m.kind != .other

theorem ClassModel.length_ofKind_add (c : ClassModel) (selected : List Nat) :
    (c.ofKind .getter selected).length + (c.ofKind .setter selected).length =
      selected.countP c.isAccessorAt := by
  induction selected with
  | nil => rfl
  | cons i is ih =>
    unfold ClassModel.ofKind at ih ⊢
    rw [List.countP_cons, ← ih, List.filter_cons, List.filter_cons]
    cases hm : c.methods[i]? with
    | none => simp [ClassModel.isAccessorAt, hm]
    | some m =>
      cases hk : m.kind <;> simp [ClassModel.isAccessorAt, hm, hk] <;> omega

section
variable {c : ClassModel} {templates : Templates} {projectName : String} {s : Selection}

theorem size_generateSelection :
    (generateSelection c templates projectName s).size = s.methods.countP c.isAccessorAt := by
  rw [generateSelection, Outcome.size_append, size_generate, size_generate,
    ClassModel.length_ofKind_add]

/-- The edits of a selection are those of its accessors, each made from the template of its kind. -/
theorem mem_edits_generateSelection {e : Edit} :
    e ∈ (generateSelection c templates projectName s).edits ↔
      ∃ i ∈ s.methods, ∃ m k text, c.methods[i]? = some m ∧
        m.kind = TemplateKind.accessorKind k ∧ (m.comment = none ∨ s.overwrite = true) ∧
        Template.render (templates.get k) (.forMethod c m projectName) = .ok text ∧
        e = m.editWith i text := by
  rw [generateSelection, Outcome.edits_append, List.mem_append, mem_edits_generate,
    mem_edits_generate]
  simp only [generateOne_eq_edit_iff, ClassModel.mem_ofKind]
  constructor
  · rintro (⟨i, ⟨hi, m, hm, hk⟩, m', text, hm', hfree, hr, rfl⟩ |
      ⟨i, ⟨hi, m, hm, hk⟩, m', text, hm', hfree, hr, rfl⟩)
    · obtain rfl : m = m' := Option.some.inj (hm.symm.trans hm')
      exact ⟨i, hi, m, .getter, text, hm, hk, hfree, hr, rfl⟩
    · obtain rfl : m = m' := Option.some.inj (hm.symm.trans hm')
      exact ⟨i, hi, m, .setter, text, hm, hk, hfree, hr, rfl⟩
  · rintro ⟨i, hi, m, k, text, hm, hk, hfree, hr, rfl⟩
    cases k with
    | getter => exact .inl ⟨i, ⟨hi, m, hm, hk⟩, m, text, hm, hfree, hr, rfl⟩
    | setter => exact .inr ⟨i, ⟨hi, m, hm, hk⟩, m, text, hm, hfree, hr, rfl⟩

end

end BeanDoc
