import BeanDoc.Proofs.StoreLaws
import Mathlib.Control.Monad.Basic

/-! Databases that were migrated. Such a database has one version on record and a table in which
each saved template has a row. Loads and saves work on these rows, and a further migration leaves
them alone. -/

namespace BeanDoc

namespace Database

structure Holds (d : Database) (m : SavedTemplates) : Prop where
  versions : d.versions = [schemaVersion]
  templates : ∃ rows, d.templates = .table { rows := rows } ∧
    ∀ k : TemplateKind, rows.lookup k.storageKey = (m.get? k).map some

def migrated : Database :=
  ⟨[schemaVersion], .table {}⟩

theorem migrate_new : ({} : Database).migrate = .ok migrated := by
  simp [Database.migrate, runStep, declaredBy_schemaStatement, migrated]

theorem migrated_holds : migrated.Holds {} where
  versions := rfl
  templates := ⟨[], rfl, fun k => by cases k <;> rfl⟩

namespace Holds

variable {d : Database} {m : SavedTemplates}

theorem load (h : d.Holds m) (k : TemplateKind) : d.load k = .ok (m.get? k) := by
  obtain ⟨rows, htable, hrows⟩ := h.templates
  have htext : textOf? k.storageKey rows = .ok (m.get? k) := by
    rw [textOf?, hrows]
    cases m.get? k <;> rfl
  simp only [Database.load, get?, htable, if_true, htext]

theorem save (h : d.Holds m) (k : TemplateKind) (text : String) :
    ∃ d', d.save false k text = .ok d' ∧ d'.Holds (m.set k text) := by
  obtain ⟨rows, htable, hrows⟩ := h.templates
  refine ⟨⟨d.versions, .table { rows := TemplateTable.setRow k.storageKey text rows }⟩, ?_,
    h.versions, _, rfl, ?_⟩
  · simp [Database.save, Database.set, htable, TemplateTable.set]
  · intro l
    rw [TemplateTable.lookup_setRow, SavedTemplates.get?_set, hrows]
    by_cases hkind : l = k
    · rw [if_pos hkind, if_pos (congrArg TemplateKind.storageKey hkind)]
      rfl
    · have hkey : l.storageKey ≠ k.storageKey := fun hkey =>
        hkind (TemplateKind.storageKey_injective hkey)
      rw [if_neg hkind, if_neg hkey]

theorem migrate (h : d.Holds m) : d.migrate = .ok d := by
  simp [Database.migrate, h.versions]

theorem latestVersion? (h : d.Holds m) : d.latestVersion? = some schemaVersion := by
  rw [Database.latestVersion?, h.versions]
  rfl

end Holds

end Database

theorem DatabaseLocation.current_put {t : Files} {d : Database} (l : DatabaseLocation) :
    (l.put t d).current = t.current := by
  cases l with
  | memory => rfl
  | file place => exact FileTree.current_put t place _

namespace Connection

variable {t : Files} {url : String} {place : List String}

theorem locate_ne_root {a : DatabaseAddress} {path : String} :
    locate t a path ≠ .ok (.file []) := by
  intro h
  unfold locate at h
  split at h
  · cases h
  · next place hplace =>
    split at h
    · obtain rfl : [] = place := DatabaseLocation.file.inj (locateAt_eq_ok h)
      -- the root is a directory
      cases mode : a.mode <;> rw [mode] at h <;> cases h
    · cases h

theorem ne_nil_of_establish {readOnly : Bool} (h : establish t url = .ok ⟨.file place, readOnly⟩) :
    place ≠ [] := by
  rintro rfl
  unfold establish at h
  split at h
  · cases h
  · next a hparse =>
    unfold ofAddress at h
    cases hfile : a.file? with
    | none =>
      rw [hfile] at h
      cases h
    | some path =>
      rw [hfile] at h
      dsimp only at h
      cases hlocate : locate t a path with
      | error f =>
        rw [hlocate] at h
        cases h
      | ok l =>
        rw [hlocate] at h
        cases h
        exact locate_ne_root hlocate

end Connection

theorem migrateDatabase_eq_ok {url version : String} {t t' : Files}
    (h : migrateDatabase url t = .ok (version, t')) :
    ∃ c d d', Connection.establish t url = .ok c ∧ (c.location.content t).toDatabase = .ok d ∧
      (if c.readOnly then d.migrateReadOnly else d.migrate) = .ok d' ∧
      d'.latestVersion? = some version ∧ t' = c.location.put t d' := by
  unfold migrateDatabase at h
  split at h
  · cases h
  · next c hconnect =>
    split at h
    · cases h
    · next d hcontent =>
      split at h
      · cases h
      · next d' hstep =>
        split at h
        · cases h
        · next v hversion =>
          obtain ⟨rfl, rfl⟩ := Prod.mk.inj (Except.ok.inj h)
          exact ⟨c, d, d', hconnect, hcontent, hstep, hversion, rfl⟩

namespace FileTree

structure Stores (t : Files) (url : String) (place : List String) (m : SavedTemplates) : Prop where
  opens : Connection.establish t url = .ok ⟨.file place, false⟩
  database : ∃ d, t.node? place = some (.file (.database d)) ∧ d.Holds m

variable {t t' : Files} {url : String} {place : List String} {m : SavedTemplates}

theorem node?_put_self {α : Type} {t : FileTree α} {n : FileNode α} (h : place ≠ []) :
    (t.put place n).node? place = some n := by
  rw [node?_put t h, if_pos rfl]

theorem ne_nil_of_node?_eq_file {α : Type} {t : FileTree α} {content : α}
    (h : t.node? place = some (.file content)) : place ≠ [] := by
  rintro rfl
  cases h

theorem sameShape_put_put {α : Type} (t : FileTree α) {place : List String} (hplace : place ≠ [])
    (a b : α) : (t.put place (.file a)).SameShape (t.put place (.file b)) where
  current := by rw [current_put, current_put]
  nodes := by
    intro p
    rw [node?_put t hplace, node?_put t hplace]
    split <;> rfl

namespace Stores

theorem put {m' : SavedTemplates} {d : Database} (h : t.Stores url place m) (hd : d.Holds m') :
    (t.put place (.file (.database d))).Stores url place m' := by
  obtain ⟨old, hnode, -⟩ := h.database
  have hshape := sameShape_put hnode (.database d)
  refine ⟨(hshape.establish url).trans h.opens, d, ?_, hd⟩
  exact node?_put_self (ne_nil_of_node?_eq_file hnode)

theorem load (h : t.Stores url place m) (k : TemplateKind) :
    TemplateStore.loadAt url t k = .ok (m.get? k) := by
  obtain ⟨d, hnode, hd⟩ := h.database
  rw [TemplateStore.loadAt_eq h.opens rfl hnode, hd.load]

theorem save (h : t.Stores url place m) (k : TemplateKind) (text : String) :
    ∃ t', TemplateStore.saveAt url t k text = .ok t' ∧ t'.Stores url place (m.set k text) := by
  obtain ⟨d, hnode, hd⟩ := h.database
  obtain ⟨d', hsave, hd'⟩ := hd.save k text
  refine ⟨t.put place (.file (.database d')), ?_, h.put hd'⟩
  simp only [TemplateStore.saveAt, h.opens, DatabaseLocation.content, hnode,
    FileContent.toDatabase, hsave, DatabaseLocation.put]

theorem migrate (h : t.Stores url place m) :
    ∃ t', migrateDatabase url t = .ok (Database.schemaVersion, t') ∧ t'.Stores url place m := by
  obtain ⟨d, hnode, hd⟩ := h.database
  refine ⟨t.put place (.file (.database d)), ?_, h.put hd⟩
  simp [migrateDatabase, h.opens, DatabaseLocation.content, hnode, FileContent.toDatabase,
    hd.migrate, hd.latestVersion?, DatabaseLocation.put]

end Stores

/-- There is a new database at the place: no file, an empty one, or one of a single byte. -/
def IsNewAt (t : Files) (place : List String) : Prop :=
  ((DatabaseLocation.file place).content t).toDatabase = .ok {}

theorem isNewAt_of_none (h : t.node? place = none) : t.IsNewAt place := by
  rw [IsNewAt, DatabaseLocation.content, h]
  rfl

section new

variable (hnew : t.IsNewAt place)
include hnew

theorem migrateDatabase_of_new (hopens : Connection.establish t url = .ok ⟨.file place, false⟩) :
    migrateDatabase url t =
      .ok (Database.schemaVersion, t.put place (.file (.database Database.migrated))) := by
  simp [migrateDatabase, hopens, show _ = _ from hnew, Database.migrate_new,
    Database.migrated_holds.latestVersion?, DatabaseLocation.put]

theorem loadAt_of_new {readOnly : Bool}
    (hopens : Connection.establish t url = .ok ⟨.file place, readOnly⟩) (k : TemplateKind) :
    TemplateStore.loadAt url t k = .error .notInitialised := by
  simp only [TemplateStore.loadAt, hopens, show _ = _ from hnew]
  rfl

theorem saveAt_of_new {readOnly : Bool}
    (hopens : Connection.establish t url = .ok ⟨.file place, readOnly⟩) (k : TemplateKind)
    (text : String) : TemplateStore.saveAt url t k text = .error .notInitialised := by
  simp only [TemplateStore.saveAt, hopens, show _ = _ from hnew]
  cases readOnly <;> rfl

/-- A new database that was migrated holds nothing, if the URL still leads to it. -/
theorem stores_of_migrated {version : String} (hmigrate : migrateDatabase url t = .ok (version, t'))
    (hopens : Connection.establish t' url = .ok ⟨.file place, false⟩) :
    t'.Stores url place {} := by
  obtain ⟨c, d, d', hconnect, hcontent, hstep, -, rfl⟩ := migrateDatabase_eq_ok hmigrate
  have hlocation : c.location = .file place :=
    Connection.location_unique (DatabaseLocation.current_put c.location).symm hconnect hopens
  rw [hlocation] at hcontent hopens ⊢
  obtain rfl : {} = d := Except.ok.inj (hnew.symm.trans hcontent)
  have hmigrated : d' = Database.migrated := by
    cases hread : c.readOnly with
    | true =>
      -- a new database that cannot be written has no version and gets none
      rw [hread] at hstep
      cases hstep
    | false =>
      rw [hread] at hstep
      exact (Except.ok.inj (Database.migrate_new.symm.trans hstep)).symm
  refine ⟨hopens, d', node?_put_self (Connection.ne_nil_of_establish hopens), ?_⟩
  rw [hmigrated]
  exact Database.migrated_holds

end new

end FileTree

def emptyProject : Files :=
  .ofFiles ["project"] []

theorem establish_emptyProject : Connection.establish emptyProject "gendoc.db" =
    .ok ⟨.file ["project", "gendoc.db"], false⟩ := by
  decide +kernel

theorem establish_emptyProject_text : Connection.establish
    (emptyProject.put ["project", "gendoc.db"] (.file (.text ""))) "gendoc.db" =
      .ok ⟨.file ["project", "gendoc.db"], false⟩ := by
  decide +kernel

theorem establish_emptyProject_put (content : FileContent) : Connection.establish
    (emptyProject.put ["project", "gendoc.db"] (.file content)) "gendoc.db" =
      .ok ⟨.file ["project", "gendoc.db"], false⟩ := by
  have hplace : ["project", "gendoc.db"] ≠ [] := List.cons_ne_nil _ _
  have hshape := emptyProject.sameShape_put_put hplace content (.text "")
  exact (hshape.establish _).trans establish_emptyProject_text

end BeanDoc
