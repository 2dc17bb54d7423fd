import BeanDoc.Proofs.GeneratedEntries
import BeanDoc.Proofs.RunComments

/-! What can go wrong in a run. Edits are generated for the class as it is before the run, and they
are applied one after the other to a class that changes. As no edit changes a name or the number of
methods, a text that is no documentation comment is all that can be rejected. -/

namespace BeanDoc

/-- The edits that a class takes, each in the state that those before it have left. -/
def ClassModel.takenEdits (c : ClassModel) : List Edit → List Edit
  | [] => []
  | e :: es =>
    match c.takeEdit e with
    | (.ok (), d) => e :: d.takenEdits es
    | (.error _, d) => d.takenEdits es

def ClassModel.HasKindAt (c : ClassModel) (k : Accessor.Kind) (i : Nat) : Prop :=
  ∃ m, c.methods[i]? = some m ∧ m.kind = k

structure Outcome.Concerns (p : Nat → Prop) (o : Outcome) : Prop where
  edits : ∀ e ∈ o.edits, p e.method
  skipped : ∀ i ∈ o.skipped, p i
  failures : ∀ f ∈ o.failures, p f.method

namespace Outcome.Concerns

variable {p q : Nat → Prop} {a b : Outcome}

theorem append (ha : a.Concerns p) (hb : b.Concerns p) : (a ++ b).Concerns p where
  edits := List.forall_mem_append.2 ⟨ha.edits, hb.edits⟩
  skipped := List.forall_mem_append.2 ⟨ha.skipped, hb.skipped⟩
  failures := List.forall_mem_append.2 ⟨ha.failures, hb.failures⟩

theorem mono (h : a.Concerns p) (hpq : ∀ i, p i → q i) : a.Concerns q where
  edits e he := hpq _ (h.edits e he)
  skipped i hi := hpq i (h.skipped i hi)
  failures f hf := hpq _ (h.failures f hf)

end Outcome.Concerns

section
variable {c : ClassModel} {template projectName : String} {overwrite : Bool} {selected : List Nat}

theorem Yields.concerns {i : Nat} {g : Generated} (h : Yields c template projectName overwrite i g) :
    (Outcome.ofGenerated g).Concerns (· = i) := by
  cases h <;> constructor <;> simp [Outcome.ofGenerated]

theorem concerns_generate :
    (generate c template projectName overwrite selected).Concerns (· ∈ selected) := by
  induction selected with
  | nil => constructor <;> simp [generate]
  | cons i is ih =>
    have hfirst := Yields.concerns (yields_iff.2 (Eq.refl
      (generateOne c template projectName overwrite i)))
    rw [generate_cons]
    apply Outcome.Concerns.append
    · exact hfirst.mono fun j hj => hj ▸ List.mem_cons_self
    · exact ih.mono fun j hj => List.mem_cons_of_mem i hj

theorem concerns_generate_ofKind {k : Accessor.Kind} :
    (generate c template projectName overwrite (c.ofKind k selected)).Concerns (c.HasKindAt k) := by
  apply concerns_generate.mono
  intro i hi
  exact (ClassModel.mem_ofKind.1 hi).2

theorem mem_failures_generate {f : GenerationFailure} :
    f ∈ (generate c template projectName overwrite selected).failures ↔
      ∃ i ∈ selected, Yields c template projectName overwrite i (.failed f) := by
  have hfailed : ∀ g : Generated, g.failure? = some f ↔ g = .failed f := by
    intro g
    cases g <;> simp [Generated.failure?]
  simp only [generate_eq_ofEntries, Outcome.ofEntries, List.mem_filterMap, List.mem_map,
    exists_exists_and_eq_and, hfailed, yields_iff]

theorem fault_ne_unknownMethod (h : ∀ i ∈ selected, i < c.methods.length) {f : GenerationFailure}
    (hf : f ∈ (generate c template projectName overwrite selected).failures) (i : Nat) :
    f.fault ≠ .unknownMethod i := by
  obtain ⟨j, hj, hyields⟩ := mem_failures_generate.1 hf
  cases hyields with
  | unknown hlength => exact absurd (h j hj) (Nat.not_lt.2 hlength)
  | unrendered hm hfree hfault =>
    intro heq
    cases heq

theorem lt_of_mem_ofKind {k : Accessor.Kind} : ∀ i ∈ c.ofKind k selected, i < c.methods.length := by
  intro i hi
  obtain ⟨-, m, hm, -⟩ := ClassModel.mem_ofKind.1 hi
  exact (List.getElem?_eq_some_iff.1 hm).1

end

namespace ClassModel

theorem length_takenEdits_add (c : ClassModel) (es : List Edit) :
    (c.takenEdits es).length + (c.takeEdits es).2.length = es.length := by
  induction es generalizing c with
  | nil => rfl
  | cons e es ih =>
    rcases ht : c.takeEdit e with ⟨answer, d⟩
    have hrest := ih d
    cases answer with
    | ok _ =>
      simp only [takenEdits, takeEdits, ht, List.length_cons]
      omega
    | error f =>
      simp only [takenEdits, takeEdits, ht, List.length_cons]
      omega

theorem rejected_sublist (c : ClassModel) (es : List Edit) :
    ((c.takeEdits es).2.map (·.edit)).Sublist es := by
  induction es generalizing c with
  | nil => exact .slnil
  | cons e es ih =>
    rw [takeEdits]
    rcases c.takeEdit e with ⟨answer, d⟩
    cases answer with
    | ok _ => exact (ih d).cons e
    | error f => exact (ih d).cons_cons e

end ClassModel

section
variable {c : ClassModel} {templates : Templates} {projectName : String} {s : Selection}

theorem malformed_of_rejected {x : Rejection}
    (hx : x ∈ (c.takeEdits (generateSelection c templates projectName s).edits).2) :
    ∃ f, DocComment.parse x.edit.comment = .error f ∧
      x.fault = .malformedComment x.edit.methodName f := by
  rw [ClassModel.takeEdits_rejections] at hx
  obtain ⟨e, he, hfault⟩ := List.mem_filterMap.1 hx
  obtain ⟨f, hf, rfl⟩ := Option.map_eq_some_iff.1 hfault
  rcases (goesByText_after he []).editFault?_eq with ⟨doc, -, hnone⟩ | ⟨g, hparse, hsome⟩
  · exact absurd (hf.symm.trans hnone) (Option.some_ne_none f)
  · exact ⟨g, hparse, Option.some.inj (hf.symm.trans hsome)⟩

theorem generateSelection_concerns :
    ∃ getters setters : Outcome, generateSelection c templates projectName s = getters ++ setters ∧
      getters.Concerns (c.HasKindAt .getter) ∧ setters.Concerns (c.HasKindAt .setter) :=
  ⟨_, _, rfl, concerns_generate_ofKind, concerns_generate_ofKind⟩

theorem failures_generateSelection {f : GenerationFailure}
    (hf : f ∈ (generateSelection c templates projectName s).failures) (i : Nat) :
    f.fault ≠ .unknownMethod i := by
  rw [generateSelection, Outcome.failures_append] at hf
  rcases List.mem_append.1 hf with hf | hf
  · exact fault_ne_unknownMethod lt_of_mem_ofKind hf i
  · exact fault_ne_unknownMethod lt_of_mem_ofKind hf i

end

/-- In a run no method is unknown. An edit is rejected for a text that is no documentation comment
and for nothing else, and each edit is applied and laid out, or is such a one, in the class that
those before it have left. The rejected edits stand in the order of all edits, the others are those
that the class has taken, and what is reported on getters stands before what is on setters. -/
theorem run_failures (category : Accessor.Category) (select : Selector) (templates : Templates)
    (projectName : String) (c : ClassModel) :
    let r := (run category select templates projectName c).2
    (∀ f ∈ r.outcome.failures, ∀ i, f.fault ≠ .unknownMethod i) ∧
      (∀ x ∈ r.rejections, ∃ f, DocComment.parse x.edit.comment = .error f ∧
        x.fault = .malformedComment x.edit.methodName f) ∧
      (∀ before e after, r.outcome.edits = before ++ e :: after →
        (c.takeEdits before).1.GoesByText e) ∧
      (r.rejections.map (·.edit)).Sublist r.outcome.edits ∧
      r.rejections.length ≤ r.outcome.edits.length ∧
      r.applied = (c.takenEdits r.outcome.edits).length ∧
      ∃ getters setters : Outcome, r.outcome = getters ++ setters ∧
        getters.Concerns (c.HasKindAt .getter) ∧ setters.Concerns (c.HasKindAt .setter) := by
  intro r
  obtain ⟨s, -, houtcome, hrejections⟩ :=
    exists_selection_of_run category select templates projectName c
  have happlied : (c.takenEdits r.outcome.edits).length + r.rejections.length =
      r.outcome.edits.length := by
    rw [houtcome, hrejections]
    exact c.length_takenEdits_add _
  refine ⟨?_, ?_, ?_, ?_, by omega, ?_, houtcome ▸ generateSelection_concerns⟩
  · intro f hf
    exact failures_generateSelection (houtcome ▸ hf)
  · intro x hx
    exact malformed_of_rejected (hrejections ▸ hx)
  · intro before e after hedits
    have he : e ∈ r.outcome.edits := hedits ▸ List.mem_append_right before List.mem_cons_self
    exact goesByText_after (houtcome ▸ he) before
  · rw [houtcome, hrejections]
    exact c.rejected_sublist _
  · rw [Report.applied]
    omega

end BeanDoc
