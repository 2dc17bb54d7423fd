import BeanDoc.Proofs.EditedClass
import Mathlib.Data.List.Nodup
import Mathlib.Data.List.Perm.Basic

/-! Edits of different methods are independent of each other. A class that takes them in another
order is the same in the end, and each edit is taken, or rejected for the same reason, whatever
edits have come before it. -/

namespace BeanDoc

theorem Method.takeEdit_of_other {i : Nat} {e : Edit} (h : e.method ≠ i) (m : Method) :
    m.takeEdit i e = m :=
  if_neg fun hi => h hi.1

theorem Method.takeEdit_comm {e f : Edit} (h : e.method ≠ f.method) (i : Nat) (m : Method) :
    (m.takeEdit i e).takeEdit i f = (m.takeEdit i f).takeEdit i e := by
  by_cases he : e.method = i
  · have hf : f.method ≠ i := fun hf => h (he.trans hf.symm)
    rw [takeEdit_of_other hf, takeEdit_of_other hf]
  · rw [takeEdit_of_other he, takeEdit_of_other he]

namespace ClassModel

variable {es fs : List Edit}

theorem afterEdit_afterEdit (c : ClassModel) (e f : Edit) :
    (c.afterEdit e).afterEdit f =
      { c with methods := c.methods.mapIdx fun i m => (m.takeEdit i e).takeEdit i f } := by
  rw [afterEdit_eq, afterEdit_eq, List.mapIdx_mapIdx]
  rfl

theorem afterEdit_comm {e f : Edit} (h : e.method ≠ f.method) (c : ClassModel) :
    (c.afterEdit e).afterEdit f = (c.afterEdit f).afterEdit e := by
  have hmethods : (fun i (m : Method) => (m.takeEdit i e).takeEdit i f) =
      fun i m => (m.takeEdit i f).takeEdit i e := by
    funext i m
    exact Method.takeEdit_comm h i m
  rw [afterEdit_afterEdit, hmethods, ← afterEdit_afterEdit]

/-- Neighbours in the list can change places, and so the list can be put into any order. -/
theorem foldl_afterEdit_perm (hdistinct : (es.map (·.method)).Nodup) (hperm : es.Perm fs)
    (c : ClassModel) : es.foldl afterEdit c = fs.foldl afterEdit c := by
  have hmethod : ∀ e ∈ es, ∀ f ∈ es, e.method = f.method → e = f :=
    fun e he f hf => List.inj_on_of_nodup_map hdistinct he hf
  apply hperm.foldl_eq'
  intro e he f hf d
  by_cases hsame : e = f
  · rw [hsame]
  · exact afterEdit_comm (fun h => hsame (hmethod e he f hf h)) d

theorem editFault?_takeEdits (c : ClassModel) (es : List Edit) (e : Edit) :
    (c.takeEdits es).1.editFault? e = c.editFault? e := by
  rw [takeEdits_fst]
  induction es generalizing c with
  | nil => rfl
  | cons f es ih => rw [List.foldl_cons, ih, editFault?_afterEdit]

/-- Edits with distinct targets can be taken in any order. The class is the same in the end, the
same edits are rejected with the same faults, and for each edit it does not matter which of the
others the class has taken when its turn comes. -/
theorem takeEdits_perm (c : ClassModel) (hdistinct : (es.map (·.method)).Nodup)
    (hperm : es.Perm fs) :
    (c.takeEdits es).1 = (c.takeEdits fs).1 ∧ (c.takeEdits es).2.Perm (c.takeEdits fs).2 ∧
      ∀ e before after before' after', es = before ++ e :: after → fs = before' ++ e :: after' →
        (c.takeEdits before).1.editFault? e = (c.takeEdits before').1.editFault? e := by
  refine ⟨?_, ?_, ?_⟩
  · rw [takeEdits_fst, takeEdits_fst, foldl_afterEdit_perm hdistinct hperm]
  · rw [takeEdits_rejections, takeEdits_rejections]
    exact hperm.filterMap _
  · intro e before after before' after' _ _
    rw [editFault?_takeEdits, editFault?_takeEdits]

theorem takeEdits_reversed :
    let c : ClassModel :=
      { methods := [{ name := "getBar" }, { name := "setBar", comment := some "/** Old. */" },
        { name := "isOpen" }] }
    let taken : Edit := ⟨1, "setBar", "/**  New. */", .insert⟩
    let stale : Edit := ⟨0, "getBaz", "/** Baz. */", .insert⟩
    let unknown : Edit := ⟨3, "getBar", "/** Bar. */", .replace⟩
    let malformed : Edit := ⟨2, "isOpen", "/** Open", .insert⟩
    let es := [taken, stale, unknown, malformed]
    (es.map (·.method)).Nodup ∧ es.Perm es.reverse ∧
      (c.takeEdits es).2 = [⟨stale, .staleEdit 0 "getBaz" "getBar"⟩, ⟨unknown, .unknownMethod 3⟩,
        ⟨malformed, .malformedComment "isOpen" .unterminated⟩] ∧
      (c.takeEdits es).1 = (c.takeEdits es.reverse).1 ∧
      (c.takeEdits es).2.Perm (c.takeEdits es.reverse).2 ∧
      (c.takeEdits [taken, stale, unknown]).1.editFault? malformed = c.editFault? malformed := by
  intro c taken stale unknown malformed es
  have hdistinct : (es.map (·.method)).Nodup := by decide
  have hperm : es.Perm es.reverse := es.reverse_perm.symm
  obtain ⟨hclass, hrejections, hfaults⟩ := takeEdits_perm c hdistinct hperm
  exact ⟨hdistinct, hperm, by decide +kernel, hclass, hrejections,
    hfaults malformed [taken, stale, unknown] [] [] [unknown, stale, taken] rfl rfl⟩

end ClassModel

end BeanDoc
