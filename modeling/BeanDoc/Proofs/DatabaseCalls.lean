import BeanDoc.Proofs.MigratedDatabase

/-! Migrations, loads and saves on one database, from the time when there is no file. Until the
first migration there is nothing to load from, and every call leaves at most an empty file behind.
After it, what is loaded depends on the saves alone. -/

namespace BeanDoc

inductive DatabaseCall where
  | migrate
  | load (k : TemplateKind)
  | save (k : TemplateKind) (text : String)
  deriving DecidableEq

inductive DatabaseAnswer where
  | migrated (result : Except StoreFault String) (events : List Event)
  | loaded (result : Except StoreFault (Option String))
  | saved (result : Except StoreFault Unit)

namespace DatabaseCall

/-- The answer to a call, and the files after it. A call that writes nothing has still opened the
database. -/
def perform (url : String) (t : Files) : DatabaseCall → DatabaseAnswer × Files
  | migrate =>
    let m := Migration.perform url t
    (.migrated m.result m.events, m.files)
  | load k => (.loaded (TemplateStore.loadAt url t k), t.touchDatabase url)
  | save k text =>
    match TemplateStore.saveAt url t k text with
    | .error f => (.saved (.error f), t.touchDatabase url)
    | .ok t => (.saved (.ok ()), t)

def track : Option SavedTemplates → DatabaseCall → Option SavedTemplates
  | none, migrate => some {}
  | some m, save k text => some (m.set k text)
  | stored, _ => stored

def answer : Option SavedTemplates → DatabaseCall → DatabaseAnswer
  | _, migrate =>
    .migrated (.ok Database.schemaVersion) [.schemaVersionRecorded Database.schemaVersion]
  | none, load _ => .loaded (.error .notInitialised)
  | some m, load k => .loaded (.ok (m.get? k))
  | none, save _ _ => .saved (.error .notInitialised)
  | some _, save _ _ => .saved (.ok ())

end DatabaseCall

namespace FileTree

/-- The URL leads to a place where there is no file, to be written, and it also leads there when
there is one. (Not every path does: below a file there is nothing, so that `a/b/../../a` leads to
`a` only as long as that is no file.) -/
structure LeadsToNew (t : Files) (url : String) (place : List String) : Prop where
  absent : t.node? place = none
  opens : Connection.establish t url = .ok ⟨.file place, false⟩
  reopens : Connection.establish (t.put place (.file (.text ""))) url = .ok ⟨.file place, false⟩

inductive Follows (t : Files) (url : String) (place : List String) :
    Option SavedTemplates → Files → Prop
  | untouched : Follows t url place none t
  | opened : Follows t url place none (t.put place (.file (.text "")))
  | stored {m : SavedTemplates} {u : Files} (h : u.Stores url place m) :
    Follows t url place (some m) u

variable {t u : Files} {url : String} {place : List String}

theorem Stores.touchDatabase {m : SavedTemplates} (h : t.Stores url place m) :
    t.touchDatabase url = t := by
  obtain ⟨d, hnode, -⟩ := h.database
  simp [FileTree.touchDatabase, h.opens, hnode]

/-- Before the first migration: there is nothing to load from, a call that fails leaves an empty
file, and a migration makes a database. -/
structure Unmigrated (t : Files) (url : String) (place : List String) (u : Files) : Prop where
  isNew : u.IsNewAt place
  opens : Connection.establish u url = .ok ⟨.file place, false⟩
  touch : u.touchDatabase url = t.put place (.file (.text ""))
  migrated : (u.put place (.file (.database Database.migrated))).Stores url place {}

namespace LeadsToNew

theorem ne_nil (h : t.LeadsToNew url place) : place ≠ [] :=
  ne_nil_of_node?_eq_none h.absent

theorem untouched (h : t.LeadsToNew url place) : Unmigrated t url place t where
  isNew := isNewAt_of_none h.absent
  opens := h.opens
  touch := by simp [touchDatabase, h.opens, h.absent]
  migrated := by
    have hshape := t.sameShape_put_put h.ne_nil (.database Database.migrated) (.text "")
    exact ⟨(hshape.establish url).trans h.reopens, Database.migrated, node?_put_self h.ne_nil,
      Database.migrated_holds⟩

theorem opened (h : t.LeadsToNew url place) :
    Unmigrated t url place (t.put place (.file (.text ""))) := by
  have hnode : (t.put place (.file (.text ""))).node? place = some (.file (.text "")) :=
    node?_put_self h.ne_nil
  refine ⟨?_, h.reopens, ?_, ?_⟩
  · rw [IsNewAt, DatabaseLocation.content, hnode]
    rfl
  · simp [touchDatabase, h.reopens, hnode]
  · have hshape := sameShape_put hnode (.database Database.migrated)
    exact ⟨(hshape.establish url).trans h.reopens, Database.migrated, node?_put_self h.ne_nil,
      Database.migrated_holds⟩

end LeadsToNew

namespace Follows

theorem unmigrated (h : t.LeadsToNew url place) (hu : Follows t url place none u) :
    Unmigrated t url place u := by
  cases hu with
  | untouched => exact h.untouched
  | opened => exact h.opened

theorem perform {stored : Option SavedTemplates} (h : t.LeadsToNew url place)
    (hu : Follows t url place stored u) (call : DatabaseCall) :
    (call.perform url u).1 = DatabaseCall.answer stored call ∧
      Follows t url place (DatabaseCall.track stored call) (call.perform url u).2 := by
  cases stored with
  | none =>
    have hun := hu.unmigrated h
    cases call with
    | migrate =>
      have hmigrate := migrateDatabase_of_new hun.isNew hun.opens
      simp only [DatabaseCall.perform, Migration.perform, hmigrate]
      exact ⟨rfl, .stored hun.migrated⟩
    | load k =>
      simp only [DatabaseCall.perform, loadAt_of_new hun.isNew hun.opens, hun.touch]
      exact ⟨rfl, .opened⟩
    | save k text =>
      simp only [DatabaseCall.perform, saveAt_of_new hun.isNew hun.opens, hun.touch]
      exact ⟨rfl, .opened⟩
  | some m =>
    have hstores : u.Stores url place m := by
      cases hu with
      | stored hstores => exact hstores
    cases call with
    | migrate =>
      obtain ⟨u', hmigrate, hu'⟩ := hstores.migrate
      simp only [DatabaseCall.perform, Migration.perform, hmigrate]
      exact ⟨rfl, .stored hu'⟩
    | load k =>
      simp only [DatabaseCall.perform, hstores.load, hstores.touchDatabase]
      exact ⟨rfl, .stored hstores⟩
    | save k text =>
      obtain ⟨u', hsave, hu'⟩ := hstores.save k text
      simp only [DatabaseCall.perform, hsave]
      exact ⟨rfl, .stored hu'⟩

end Follows

end FileTree

namespace DatabaseCall

variable {t : Files} {url : String} {place : List String}

end DatabaseCall

end BeanDoc
