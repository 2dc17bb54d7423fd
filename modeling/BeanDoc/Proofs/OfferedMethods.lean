import BeanDoc.Proofs.RepeatedRuns
import Mathlib.Data.List.Sort

/-! The methods that a run offers. They are told by their places in the class, so that methods which
are equal stay apart. A run ends before it asks for a selection exactly if there is nothing to
offer, and then it leaves no trace. -/

namespace BeanDoc

open Accessor

namespace ClassModel

variable {c : ClassModel} {category : Category}

theorem mem_candidates {i : Nat} : i ∈ c.candidates category ↔
    ∃ m, c.methods[i]? = some m ∧ m.kind ∈ category.kinds := by
  rw [candidates_eq_filter_range, List.mem_filter, List.mem_range, Option.any_eq_true]
  simp only [Category.includes, List.contains_iff_mem]
  constructor
  · rintro ⟨-, hm⟩
    exact hm
  · rintro ⟨m, hm, hkind⟩
    exact ⟨(List.getElem?_eq_some_iff.1 hm).1, m, hm, hkind⟩

theorem candidates_pairwise (c : ClassModel) (category : Category) :
    (c.candidates category).Pairwise (· < ·) := by
  rw [candidates_eq_filter_range]
  exact List.pairwise_lt_range.filter _

theorem candidates_nodup (c : ClassModel) (category : Category) : (c.candidates category).Nodup :=
  (c.candidates_pairwise category).imp Nat.ne_of_lt

theorem map_idOf? (c : ClassModel) (category : Category) :
    (filterByCategory category c.methods).map c.idOf? = (c.candidates category).map some := by
  rw [candidates_eq_places, List.map_map]
  exact List.map_congr_left fun r hr => idOf?_of_mem_filterByCategory hr

theorem map_candidates (c : ClassModel) (category : Category) :
    (c.candidates category).map (fun i => c.methods[i]?) =
      (filterByCategory category c.methods).map fun r => some r.method := by
  rw [candidates_eq_places, List.map_map]
  apply List.map_congr_left
  intro r hr
  rw [filterByCategory_eq] at hr
  exact Method.mem_references.1 (List.mem_filter.1 hr).1

theorem disjoint_candidates (c : ClassModel) :
    (c.candidates .getters).Disjoint (c.candidates .setters) := by
  intro i hgetter hsetter
  obtain ⟨m, hm, hget⟩ := mem_candidates.1 hgetter
  obtain ⟨n, hn, hset⟩ := mem_candidates.1 hsetter
  obtain rfl : m = n := Option.some.inj (hm.symm.trans hn)
  have hkinds : Kind.getter = Kind.setter :=
    (List.mem_singleton.1 hget).symm.trans (List.mem_singleton.1 hset)
  cases hkinds

theorem mem_candidates_accessors {i : Nat} : i ∈ c.candidates .accessors ↔
    i ∈ c.candidates .getters ∨ i ∈ c.candidates .setters := by
  simp only [mem_candidates, Category.kinds, List.mem_pair, List.mem_singleton]
  rw [← exists_or]
  simp only [and_or_left]

theorem candidates_accessors (c : ClassModel) :
    c.candidates .accessors = (c.candidates .getters).merge (c.candidates .setters) := by
  have hsorted : ∀ category, (c.candidates category).Pairwise (· ≤ ·) :=
    fun category => (c.candidates_pairwise category).imp Nat.le_of_lt
  have hnodup : (c.candidates .getters ++ c.candidates .setters).Nodup :=
    (c.candidates_nodup .getters).append (c.candidates_nodup .setters) c.disjoint_candidates
  -- two sorted lists with the same members are the same list
  have hperm : (c.candidates .accessors).Perm (c.candidates .getters ++ c.candidates .setters) := by
    rw [List.perm_ext_iff_of_nodup (c.candidates_nodup .accessors) hnodup]
    intro i
    rw [List.mem_append, mem_candidates_accessors]
  apply (hperm.trans (List.merge_perm_append _).symm).eq_of_pairwise' (hsorted .accessors)
  simpa using (hsorted .getters).merge (hsorted .setters)

end ClassModel

section
variable {category : Category} {select : Selector} {templates : Templates} {projectName : String}
  {c : ClassModel}

theorem isEnabled_eq_false_iff_status :
    c.isEnabled category = false ↔
      (run category select templates projectName c).2.status = .noClass ∨
        (run category select templates projectName c).2.status = .noCandidates := by
  rw [run_status]
  cases c.isEnabled category with
  | false => cases c.isInterface <;> simp
  | true => cases (select c (c.candidates category)).isSome <;> simp

theorem run_of_not_enabled (h : c.isEnabled category = false) :
    (run category select templates projectName c).1 = c ∧
      (run category select templates projectName c).2.outcome = {} ∧
      (run category select templates projectName c).2.rejections = [] := by
  apply run_of_not_selected
  rcases ClassModel.isEnabled_eq_false_iff.1 h with hi | hc
  · exact .inl hi
  · exact .inr (.inl hc)

end

/-- The candidates are the places, in increasing order, of the methods that are of a kind in the
category. They are found by place alone, and each reference that the category keeps has one. All
accessors are the getters and the setters in one order. Whoever selects, a run ends without a class
or without candidates exactly if it is not enabled, and then it does nothing. -/
theorem candidates_agree_with_run (c : ClassModel) (category : Category) :
    (c.candidates category).Pairwise (· < ·) ∧
      (∀ i, i ∈ c.candidates category ↔
        ∃ m, c.methods[i]? = some m ∧ m.kind ∈ category.kinds) ∧
      (∀ r i, c.idOf? r = some i ↔ r.place = i ∧ i < c.methods.length) ∧
      (filterByCategory category c.methods).map c.idOf? = (c.candidates category).map some ∧
      (c.candidates category).map (fun i => c.methods[i]?) =
        (filterByCategory category c.methods).map (fun r => some r.method) ∧
      (c.candidates .getters).Disjoint (c.candidates .setters) ∧
      c.candidates .accessors = (c.candidates .getters).merge (c.candidates .setters) ∧
      ∀ (select : Selector) (templates : Templates) (projectName : String),
        let r := run category select templates projectName c
        (c.isEnabled category = false ↔
            r.2.status = .noClass ∨ r.2.status = .noCandidates) ∧
          (c.isEnabled category = false →
            r.1 = c ∧ r.2.outcome = {} ∧ r.2.rejections = []) := by
  refine ⟨c.candidates_pairwise category, fun i => ClassModel.mem_candidates,
    fun r i => ClassModel.idOf?_eq_some_iff, c.map_idOf? category, c.map_candidates category,
    c.disjoint_candidates, c.candidates_accessors, ?_⟩
  intro select templates projectName
  exact ⟨isEnabled_eq_false_iff_status, run_of_not_enabled⟩

-- Two methods that are equal are two candidates.
example : ClassModel.candidates { methods := [{ name := "getX", returnType := some "int" },
    { name := "getX", returnType := some "int" }] } .accessors = [0, 1] := by
  decide

end BeanDoc
