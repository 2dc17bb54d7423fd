import BeanDoc.Proofs.GeneratedEdits
import Mathlib.Data.List.Forall2

/-! Every place of a selection counts once. What comes of the selected methods is sorted into edits,
skipped methods and failures, and each sort stays in the order of the selection. -/

namespace BeanDoc

namespace Generated

def edit? : Generated → Option Edit
  | edit e => some e
  | _ => none

def skipped? : Generated → Option Nat
  | skipped i => some i
  | _ => none

def failure? : Generated → Option GenerationFailure
  | failed f => some f
  | _ => none

end Generated

def Outcome.ofEntries (gs : List Generated) : Outcome where
  edits := gs.filterMap Generated.edit?
  skipped := gs.filterMap Generated.skipped?
  failures := gs.filterMap Generated.failure?

/-- What a selected index leads to, with one rule for each of the four ways to go on from it. -/
inductive Yields (c : ClassModel) (template projectName : String) (overwrite : Bool) (i : Nat) :
    Generated → Prop
  | unknown (hi : c.methods.length ≤ i) :
      Yields c template projectName overwrite i (.failed ⟨i, .unknownMethod i⟩)
  | kept {m : Method} (hm : c.methods[i]? = some m) (hcomment : m.comment ≠ none)
      (hkeep : overwrite = false) : Yields c template projectName overwrite i (.skipped i)
  | rendered {m : Method} {text : String} {mode : EditMode} (hm : c.methods[i]? = some m)
      (hfree : m.comment = none ∨ overwrite = true)
      (htext : Template.render template (.forMethod c m projectName) = .ok text)
      (hmode : mode = .replace ↔ m.comment ≠ none) :
      Yields c template projectName overwrite i (.edit ⟨i, m.name, text, mode⟩)
  | unrendered {m : Method} {f : TemplateFault} (hm : c.methods[i]? = some m)
      (hfree : m.comment = none ∨ overwrite = true)
      (hfault : Template.render template (.forMethod c m projectName) = .error f) :
      Yields c template projectName overwrite i (.failed ⟨i, .template m.name f⟩)

namespace Outcome

theorem ofEntries_cons (g : Generated) (gs : List Generated) :
    ofEntries (g :: gs) = ofGenerated g ++ ofEntries gs := by
  cases g <;> rfl

theorem ofEntries_append (gs hs : List Generated) :
    ofEntries (gs ++ hs) = ofEntries gs ++ ofEntries hs := by
  induction gs with
  | nil => rfl
  | cons g gs ih =>
    rw [List.cons_append, ofEntries_cons, ofEntries_cons, ih]
    exact (Outcome.mk.injEq ..).mpr ⟨(List.append_assoc ..).symm, (List.append_assoc ..).symm,
      (List.append_assoc ..).symm⟩

end Outcome

section
variable {c : ClassModel} {template projectName : String} {overwrite : Bool} {i : Nat}

theorem eq_editWith_iff {m : Method} {text : String} {mode : EditMode} :
    ⟨i, m.name, text, mode⟩ = m.editWith i text ↔ (mode = .replace ↔ m.comment ≠ none) := by
  cases hcomment : m.comment <;> cases mode <;>
    simp [Method.editWith, Method.hasComment, hcomment]

theorem exists_yields (c : ClassModel) (template projectName : String) (overwrite : Bool) (i : Nat) :
    ∃ g, Yields c template projectName overwrite i g := by
  cases hm : c.methods[i]? with
  | none => exact ⟨_, .unknown (List.getElem?_eq_none_iff.1 hm)⟩
  | some m =>
    by_cases hfree : m.comment = none ∨ overwrite = true
    · cases hrender : Template.render template (.forMethod c m projectName) with
      | error f => exact ⟨_, .unrendered hm hfree hrender⟩
      | ok text =>
        have hmode := (eq_editWith_iff (i := i) (m := m)).1 (Eq.refl (m.editWith i text))
        exact ⟨_, .rendered hm hfree hrender hmode⟩
    · obtain ⟨hcomment, hkeep⟩ := not_or.1 hfree
      exact ⟨_, .kept hm hcomment (by simpa using hkeep)⟩

theorem generateOne_eq_of_yields {g : Generated} (h : Yields c template projectName overwrite i g) :
    generateOne c template projectName overwrite i = g := by
  cases h with
  | unknown hi => rw [generateOne, List.getElem?_eq_none_iff.2 hi]
  | @kept m hm hcomment hkeep =>
    have hskip : (m.hasComment && !overwrite) = true := by
      simp [Method.hasComment, Option.isSome_iff_ne_none, hcomment, hkeep]
    simp [generateOne, hm, hskip]
  | @rendered m text mode hm hfree htext hmode =>
    exact generateOne_eq_edit_iff.2 ⟨m, text, hm, hfree, htext, eq_editWith_iff.2 hmode⟩
  | @unrendered m f hm hfree hfault =>
    have hgoes : (m.hasComment && !overwrite) = false := by
      rcases hfree with hcomment | hoverwrite
      · simp [Method.hasComment, hcomment]
      · simp [hoverwrite]
    simp [generateOne, hm, hgoes, hfault]

theorem yields_iff {g : Generated} :
    Yields c template projectName overwrite i g ↔
      generateOne c template projectName overwrite i = g := by
  refine ⟨generateOne_eq_of_yields, ?_⟩
  rintro rfl
  obtain ⟨g, hg⟩ := exists_yields c template projectName overwrite i
  rwa [generateOne_eq_of_yields hg]

theorem forall₂_yields_iff {selected : List Nat} {gs : List Generated} :
    List.Forall₂ (Yields c template projectName overwrite) selected gs ↔
      gs = selected.map (generateOne c template projectName overwrite) := by
  have hrules : Yields c template projectName overwrite =
      fun i g => generateOne c template projectName overwrite i = g := by
    funext i g
    exact propext yields_iff
  rw [hrules, ← List.forall₂_map_left_iff, List.forall₂_eq_eq_eq, eq_comm]

theorem generate_eq_ofEntries (selected : List Nat) :
    generate c template projectName overwrite selected =
      .ofEntries (selected.map (generateOne c template projectName overwrite)) := by
  induction selected with
  | nil => rfl
  | cons i is ih => rw [generate_cons, ih, List.map_cons, Outcome.ofEntries_cons]

end

/-- Each place of a selection leads to one entry, and the entries are sorted into the outcome. So
the outcome has as many entries as the selection has places, and a longer selection adds to it. -/
theorem generate_partitions (c : ClassModel) (template projectName : String) (overwrite : Bool)
    (selected : List Nat) :
    let o := generate c template projectName overwrite selected
    (∃ entries, (∀ gs, List.Forall₂ (Yields c template projectName overwrite) selected gs ↔
        gs = entries) ∧ o = .ofEntries entries) ∧
      o.edits.length + o.skipped.length + o.failures.length = selected.length ∧
      o.inserted + o.replaced = o.edits.length ∧
      ∀ more, generate c template projectName overwrite (selected ++ more) =
        o ++ generate c template projectName overwrite more := by
  intro o
  refine ⟨⟨_, fun _ => forall₂_yields_iff, generate_eq_ofEntries selected⟩, size_generate,
    o.inserted_add_replaced, fun more => ?_⟩
  rw [generate_eq_ofEntries, List.map_append, Outcome.ofEntries_append, ← generate_eq_ofEntries,
    ← generate_eq_ofEntries]

end BeanDoc
