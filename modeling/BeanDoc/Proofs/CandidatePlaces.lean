import BeanDoc.Accessor.Category
import Mathlib.Data.List.Basic
import Mathlib.Data.List.Induction

/-! The places of candidates. A reference leads back to the index of its method, also if there are
equal methods before it; so none of the references that a category keeps is lost. -/

namespace BeanDoc

open Accessor

theorem Method.mem_references {ms : List Method} {r : MethodRef} :
    r ∈ references ms ↔ ms[r.place]? = some r.method := by
  rw [references, List.mem_mapIdx]
  constructor
  · rintro ⟨i, hi, rfl⟩
    exact List.getElem?_eq_getElem hi
  · intro hm
    obtain ⟨hi, hmethod⟩ := List.getElem?_eq_some_iff.1 hm
    exact ⟨r.place, hi, by rw [hmethod]⟩

namespace ClassModel

variable {c : ClassModel} {category : Category} {r : MethodRef} {i : Nat}

theorem mem_methodsWithIds {p : Nat × MethodRef} :
    p ∈ c.methodsWithIds ↔ p.2 ∈ Method.references c.methods ∧ p.2.place = p.1 := by
  rw [methodsWithIds, List.mem_mapIdx, Method.mem_references]
  constructor
  · rintro ⟨i, hi, rfl⟩
    have hlength : i < c.methods.length := by simpa [Method.references] using hi
    simp [Method.references, hlength]
  · obtain ⟨i, r⟩ := p
    rintro ⟨hm, hplace⟩
    obtain ⟨hi, hmethod⟩ := List.getElem?_eq_some_iff.1 hm
    obtain rfl : r.place = i := hplace
    refine ⟨r.place, by simpa [Method.references] using hi, ?_⟩
    simp [Method.references, hmethod]

theorem idOf?_eq_some_iff : c.idOf? r = some i ↔ r.place = i ∧ i < c.methods.length := by
  have hfound : ∀ p, c.methodsWithIds.find? (fun p => p.2.place == r.place) = some p →
      p.1 = r.place ∧ p.1 < c.methods.length := by
    intro p hp
    obtain ⟨hm, hplace⟩ := mem_methodsWithIds.1 (List.mem_of_find?_eq_some hp)
    have hsame : p.2.place = r.place := by simpa using List.find?_some hp
    have hlt := (List.getElem?_eq_some_iff.1 (Method.mem_references.1 hm)).1
    exact ⟨hplace.symm.trans hsame, hplace ▸ hlt⟩
  constructor
  · intro h
    obtain ⟨p, hp, rfl⟩ := Option.map_eq_some_iff.1 h
    obtain ⟨hplace, hlt⟩ := hfound p hp
    exact ⟨hplace.symm, hlt⟩
  · rintro ⟨rfl, hlt⟩
    rw [idOf?]
    cases hfind : c.methodsWithIds.find? fun p => p.2.place == r.place with
    | none =>
      have hmem : (r.place, ⟨r.place, c.methods[r.place]⟩) ∈ c.methodsWithIds :=
        mem_methodsWithIds.2 ⟨Method.mem_references.2 (List.getElem?_eq_getElem hlt), rfl⟩
      simpa using List.find?_eq_none.1 hfind _ hmem
    | some p => rw [Option.map_some, (hfound p hfind).1]

-- Of two equal methods each has its own index, and an equal one elsewhere has none.
example : [0, 1, 2].map (fun i => idOf? { methods := [{ name := "run" }, { name := "run" }] }
    ⟨i, { name := "run" }⟩) = [some 0, some 1, none] := by
  decide

theorem idOf?_of_mem (h : r ∈ Method.references c.methods) : c.idOf? r = some r.place :=
  idOf?_eq_some_iff.2 ⟨rfl, (List.getElem?_eq_some_iff.1 (Method.mem_references.1 h)).1⟩

/-- No category has the kind of other methods, so it need not be ruled out. -/
theorem filterByCategory_eq (category : Category) (ms : List Method) :
    filterByCategory category ms =
      (Method.references ms).filter fun r => category.includes r.method.kind := by
  apply List.filter_congr
  intro r _
  cases category <;> cases r.method.kind <;> rfl

theorem idOf?_of_mem_filterByCategory (h : r ∈ filterByCategory category c.methods) :
    c.idOf? r = some r.place := by
  rw [filterByCategory_eq] at h
  exact idOf?_of_mem (List.mem_filter.1 h).1

theorem candidates_eq_places (c : ClassModel) (category : Category) :
    c.candidates category = (filterByCategory category c.methods).map (·.place) := by
  have hids : ∀ r ∈ filterByCategory category c.methods, c.idOf? r = some r.place :=
    fun r hr => idOf?_of_mem_filterByCategory hr
  rw [candidates, List.filterMap_congr hids, List.filterMap_eq_map']

theorem candidates_eq_filterMap_zipIdx (c : ClassModel) (category : Category) :
    c.candidates category = c.methods.zipIdx.filterMap fun p =>
      if category.includes p.1.kind then some p.2 else none := by
  rw [candidates_eq_places, filterByCategory_eq, Method.references, List.mapIdx_eq_zipIdx_map]
  induction c.methods.zipIdx with
  | nil => rfl
  | cons p ps ih => cases hincludes : category.includes p.1.kind <;> simp [hincludes, ih]

theorem candidates_eq_filter_range (c : ClassModel) (category : Category) :
    c.candidates category = (List.range c.methods.length).filter fun i =>
      (c.methods[i]?).any fun m => category.includes m.kind := by
  rw [candidates_eq_filterMap_zipIdx]
  induction c.methods using List.reverseRecOn with
  | nil => rfl
  | append_singleton ms m ih =>
    have hold : ∀ i ∈ List.range ms.length,
        ((ms ++ [m])[i]?).any (fun m => category.includes m.kind) =
          (ms[i]?).any fun m => category.includes m.kind := by
      intro i hi
      rw [List.getElem?_append_left (List.mem_range.1 hi)]
    rw [List.zipIdx_append, List.filterMap_append, ih, List.length_append, List.length_singleton,
      List.range_succ, List.filter_append, List.filter_congr hold]
    cases hincludes : category.includes m.kind <;> simp [hincludes]

end ClassModel

end BeanDoc
