import BeanDoc.Proofs.MigratedDatabase

/-! Stores in use. What a store answers to loads and saves, its own and those of the templates that
were configured from it, is the same for a migrated database and for the store in memory. On both,
a template that is loaded again is the last one that was saved, unless that is blank. -/

namespace BeanDoc

/-- What can be done with a store and with the templates that were configured from it. Configured
templates are counted in the order in which they were loaded. -/
inductive StoreCall where
  | load (k : TemplateKind)
  | save (k : TemplateKind) (text : String)
  | loadAll
  | saveConfig (i : Nat) (text : String)
  | setTemplate (i : Nat) (text : String)

inductive StoreAnswer where
  | loaded (result : Except StoreFault (Option String))
  | saved (result : Except StoreFault Unit)
  | configs (cs : List TemplateConfig)
  | configSaved (result : Except SaveFault Unit) (c : TemplateConfig)
  | templateSet (c : TemplateConfig)
  | noConfig

structure StoreSession (σ : Type) where
  state : σ
  configs : List TemplateConfig := []

namespace StoreSession

variable {σ : Type}

def perform (store : TemplateStore σ) (x : StoreSession σ) :
    StoreCall → StoreAnswer × StoreSession σ
  | .load k => (.loaded (store.load x.state k), x)
  | .save k text =>
    match store.save x.state k text with
    | .error f => (.saved (.error f), x)
    | .ok s => (.saved (.ok ()), { x with state := s })
  | .loadAll =>
    let cs := TemplateConfig.loadAll store x.state
    (.configs cs, { x with configs := x.configs ++ cs })
  | .saveConfig i text =>
    match x.configs[i]? with
    | none => (.noConfig, x)
    | some c =>
      match c.save store x.state text with
      | (.error f, c) => (.configSaved (.error f) c, { x with configs := x.configs.set i c })
      | (.ok s, c) => (.configSaved (.ok ()) c, ⟨s, x.configs.set i c⟩)
  | .setTemplate i text =>
    match x.configs[i]? with
    | none => (.noConfig, x)
    | some c =>
      let c := { c with template := text }
      (.templateSet c, { x with configs := x.configs.set i c })

def course (store : TemplateStore σ) (x : StoreSession σ) :
    List StoreCall → List (StoreCall × StoreAnswer)
  | [] => []
  | call :: calls =>
    let done := x.perform store call
    (call, done.1) :: done.2.course store calls

def after (store : TemplateStore σ) (x : StoreSession σ) (calls : List StoreCall) :
    StoreSession σ :=
  calls.foldl (fun y call => (y.perform store call).2) x

end StoreSession

namespace StoreCall

/-- The text that a call has saved for a kind, to judge by its answer. -/
def savedText? (k : TemplateKind) : StoreCall × StoreAnswer → Option String
  | (.save l text, .saved (.ok _)) => if l = k then some text else none
  | (.saveConfig _ text, .configSaved (.ok _) c) => if c.kind = k then some text else none
  | _ => none

def lastSaved? (k : TemplateKind) (course : List (StoreCall × StoreAnswer)) : Option String :=
  (course.filterMap (savedText? k)).getLast?

/-- The template of a kind when it is loaded again: the last text that was saved, or the default if
there is none or if it is blank. -/
def reloaded (k : TemplateKind) (course : List (StoreCall × StoreAnswer)) : String :=
  ((lastSaved? k course).filter fun text => !Text.isBlankText text).getD k.default

end StoreCall

namespace TemplateStore

variable {σ : Type}

/-- In states that hold saved templates the store does what the store in memory does. -/
structure ActsAsMemory (store : TemplateStore σ) (holds : σ → SavedTemplates → Prop) : Prop where
  load : ∀ {s : σ} {m : SavedTemplates}, holds s m → ∀ k, store.load s k = .ok (m.get? k)
  save : ∀ {s : σ} {m : SavedTemplates}, holds s m → ∀ k text,
    ∃ s', store.save s k text = .ok s' ∧ holds s' (m.set k text)

theorem memory_actsAsMemory : memory.ActsAsMemory Eq where
  load := by
    rintro s _ rfl k
    rfl
  save := by
    rintro s _ rfl k text
    exact ⟨s.set k text, rfl, rfl⟩

theorem database_actsAsMemory (url : String) (place : List String) :
    (database url).ActsAsMemory fun t m => t.Stores url place m where
  load h k := h.load k
  save h k text := h.save k text

end TemplateStore

namespace StoreSession

variable {σ : Type} {store : TemplateStore σ} {holds : σ → SavedTemplates → Prop}
  {x : StoreSession σ} {m : SavedTemplates}

def saveTexts (m : SavedTemplates) : StoreCall × StoreAnswer → SavedTemplates
  | (.save k text, .saved (.ok _)) => m.set k text
  | (.saveConfig _ text, .configSaved (.ok _) c) => m.set c.kind text
  | _ => m

theorem get?_saveTexts (m : SavedTemplates) (done : StoreCall × StoreAnswer) (k : TemplateKind) :
    (saveTexts m done).get? k = (StoreCall.savedText? k done).or (m.get? k) := by
  unfold saveTexts StoreCall.savedText?
  split
  · rw [SavedTemplates.get?_set]
    simp only [eq_comm]
    split <;> rfl
  · rw [SavedTemplates.get?_set]
    simp only [eq_comm]
    split <;> rfl
  · rfl

theorem get?_foldl_saveTexts (m : SavedTemplates) (course : List (StoreCall × StoreAnswer))
    (k : TemplateKind) :
    (course.foldl saveTexts m).get? k = (StoreCall.lastSaved? k course).or (m.get? k) := by
  induction course generalizing m with
  | nil => rfl
  | cons done course ih =>
    rw [List.foldl_cons, ih, get?_saveTexts, ← Option.or_assoc]
    congr 1
    cases hsaved : StoreCall.savedText? k done with
    | none => rw [StoreCall.lastSaved?, StoreCall.lastSaved?, List.filterMap_cons_none hsaved,
        Option.or_none]
    | some text =>
      rw [StoreCall.lastSaved?, StoreCall.lastSaved?, List.filterMap_cons_some hsaved,
        List.getLast?_cons]
      cases (course.filterMap (StoreCall.savedText? k)).getLast? <;> rfl

theorem load_eq_memory (h : store.ActsAsMemory holds) {s : σ} (hs : holds s m) (k : TemplateKind) :
    TemplateConfig.load store s k = TemplateConfig.load .memory m k := by
  rw [TemplateConfig.load, h.load hs]
  rfl

theorem perform_eq_memory (h : store.ActsAsMemory holds) (hx : holds x.state m)
    (call : StoreCall) :
    let done := x.perform store call
    let remembered := (⟨m, x.configs⟩ : StoreSession SavedTemplates).perform .memory call
    done.1 = remembered.1 ∧ done.2.configs = remembered.2.configs ∧
      holds done.2.state (saveTexts m (call, done.1)) := by
  cases call with
  | load k => exact ⟨congrArg StoreAnswer.loaded (h.load hx k), rfl, hx⟩
  | save k text =>
    obtain ⟨s', hsave, hs'⟩ := h.save hx k text
    simp only [perform, hsave]
    exact ⟨rfl, rfl, hs'⟩
  | loadAll =>
    have hconfigs : TemplateConfig.loadAll store x.state = TemplateConfig.loadAll .memory m :=
      List.map_congr_left fun k _ => load_eq_memory h hx k
    simp only [perform, hconfigs]
    exact ⟨trivial, trivial, hx⟩
  | saveConfig i text =>
    simp only [perform]
    cases x.configs[i]? with
    | none => exact ⟨rfl, rfl, hx⟩
    | some c =>
      obtain ⟨s', hsave, hs'⟩ := h.save hx c.kind text
      simp only [TemplateConfig.save, hsave]
      exact ⟨rfl, rfl, hs'⟩
  | setTemplate i text =>
    simp only [perform]
    cases x.configs[i]? with
    | none => exact ⟨rfl, rfl, hx⟩
    | some c => exact ⟨rfl, rfl, hx⟩

theorem perform_memory (y : StoreSession SavedTemplates) (call : StoreCall) :
    (y.perform .memory call).2.state = saveTexts y.state (call, (y.perform .memory call).1) :=
  (perform_eq_memory TemplateStore.memory_actsAsMemory rfl call).2.2

theorem course_eq_memory (h : store.ActsAsMemory holds) (hx : holds x.state m)
    (calls : List StoreCall) :
    let course := (⟨m, x.configs⟩ : StoreSession SavedTemplates).course .memory calls
    x.course store calls = course ∧
      holds (x.after store calls).state (course.foldl saveTexts m) := by
  induction calls generalizing x m with
  | nil => exact ⟨rfl, hx⟩
  | cons call calls ih =>
    obtain ⟨hanswer, hconfigs, hstate⟩ := perform_eq_memory h hx call
    -- the session in memory goes on with the same templates
    have hnext : ((⟨m, x.configs⟩ : StoreSession SavedTemplates).perform .memory call).2 =
        ⟨saveTexts m (call, (x.perform store call).1), (x.perform store call).2.configs⟩ := by
      rw [hanswer, hconfigs]
      exact congrArg (StoreSession.mk · _) (perform_memory ⟨m, x.configs⟩ call)
    obtain ⟨hcourse, hafter⟩ := ih hstate
    rw [← hnext] at hcourse hafter
    refine ⟨?_, ?_⟩
    · rw [course, course, hcourse, hanswer]
    · rw [course, List.foldl_cons, ← hanswer]
      exact hafter

theorem effective_eq_reloaded (k : TemplateKind) (stored : Option String) :
    TemplateConfig.effective k (.ok stored) =
      (stored.filter fun text => !Text.isBlankText text).getD k.default := by
  cases stored with
  | none => rfl
  | some text => cases hblank : Text.isBlankText text <;>
      simp [TemplateConfig.effective, Option.filter, hblank]

theorem load_after (h : store.ActsAsMemory holds) {s : σ} (hs : holds s {})
    (calls : List StoreCall) (k : TemplateKind) :
    let x : StoreSession σ := ⟨s, []⟩
    TemplateConfig.load store (x.after store calls).state k =
      ⟨k, StoreCall.reloaded k (x.course store calls)⟩ := by
  intro x
  obtain ⟨hcourse, hafter⟩ := course_eq_memory (x := x) h hs calls
  have hnone : ({} : SavedTemplates).get? k = none := by cases k <;> rfl
  rw [TemplateConfig.load, h.load hafter, get?_foldl_saveTexts, hnone, Option.or_none,
    effective_eq_reloaded, ← hcourse]
  rfl

/-- A new database that was migrated answers all calls as the store in memory does. After them, both
load for each template the last text that was saved for it, or the default if that text is blank or
there is none. -/
theorem database_eq_memory {t₀ t : Files} {url version : String} {place : List String}
    (hnew : t₀.IsNewAt place) (hmigrate : migrateDatabase url t₀ = .ok (version, t))
    (hopens : Connection.establish t url = .ok ⟨.file place, false⟩) (calls : List StoreCall) :
    let x : StoreSession Files := ⟨t, []⟩
    let y : StoreSession SavedTemplates := ⟨{}, []⟩
    x.course (.database url) calls = y.course .memory calls ∧
      ∀ k, TemplateConfig.load (.database url) (x.after (.database url) calls).state k =
          ⟨k, StoreCall.reloaded k (x.course (.database url) calls)⟩ ∧
        TemplateConfig.load .memory (y.after .memory calls).state k =
          ⟨k, StoreCall.reloaded k (y.course .memory calls)⟩ := by
  intro x y
  have hstores := FileTree.stores_of_migrated hnew hmigrate hopens
  have hdatabase := TemplateStore.database_actsAsMemory url place
  refine ⟨(course_eq_memory (x := x) hdatabase hstores calls).1, fun k => ⟨?_, ?_⟩⟩
  · exact load_after hdatabase hstores calls k
  · exact load_after TemplateStore.memory_actsAsMemory rfl calls k

theorem database_eq_memory_emptyProject :
    let t := emptyProject.put ["project", "gendoc.db"] (.file (.database Database.migrated))
    let calls : List StoreCall := [.load .getter, .loadAll, .setTemplate 1 "/** Sets. */",
      .saveConfig 0 "/** Gets $field. */", .save .setter " \n", .loadAll]
    let x : StoreSession Files := ⟨t, []⟩
    let y : StoreSession SavedTemplates := ⟨{}, []⟩
    emptyProject.IsNewAt ["project", "gendoc.db"] ∧
      migrateDatabase "gendoc.db" emptyProject = .ok (Database.schemaVersion, t) ∧
      Connection.establish t "gendoc.db" = .ok ⟨.file ["project", "gendoc.db"], false⟩ ∧
      x.course (.database "gendoc.db") calls = y.course .memory calls ∧
      (TemplateConfig.load .memory (y.after .memory calls).state .getter).template =
        "/** Gets $field. */" ∧
      (TemplateConfig.load .memory (y.after .memory calls).state .setter).template =
        TemplateKind.setter.default := by
  intro t calls x y
  have hnew : emptyProject.IsNewAt ["project", "gendoc.db"] := FileTree.isNewAt_of_none rfl
  have hmigrate := FileTree.migrateDatabase_of_new hnew establish_emptyProject
  have hopens := establish_emptyProject_put (.database Database.migrated)
  obtain ⟨hcourse, hload⟩ := database_eq_memory hnew hmigrate hopens calls
  refine ⟨hnew, hmigrate, hopens, hcourse, ?_, ?_⟩
  · rw [(hload .getter).2]
    rfl
  · rw [(hload .setter).2]
    rfl

end StoreSession

end BeanDoc
