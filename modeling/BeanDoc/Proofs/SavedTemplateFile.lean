import BeanDoc.Command.Templates
import BeanDoc.Proofs.AppliedDrafts

/-! Saving one template from a file. The command saves the drafts of both templates, and the draft
of the other one is what is in use for it. So the other row is written as well, and it stays as it
was only if it held a text that is not blank. -/

namespace BeanDoc

open Draft

variable {s : Settings} {t : Files} {url path : String} {k l : TemplateKind}

theorem TemplateStore.touchDatabase_eq_self {text : String} {t' : Files}
    (h : saveAt url (t.touchDatabase url) k text = .ok t') : t.touchDatabase url = t := by
  rcases t.touchDatabase_cases url with hself | ⟨new, readOnly, hnew, hnone, htouch⟩
  · exact hself
  · -- a file that was made just now is no database that takes a text
    rw [htouch] at h
    obtain ⟨c, place, d, d', hconnect, hlocation, hnode, -, -⟩ := saveAt_eq_ok h
    have hcurrent := FileTree.current_put t new (.file (.text ""))
    have hplace : place = new := DatabaseLocation.file.inj
      (hlocation.symm.trans (Connection.location_unique hcurrent hconnect hnew))
    rw [hplace, FileTree.node?_put t (FileTree.ne_nil_of_node?_eq_none hnone), if_pos rfl] at hnode
    cases hnode

theorem readTemplate_eq_ok {text : String} (h : readTemplate t path = .ok text) :
    ∃ content, t.readText path = .ok content ∧
      text = String.ofList (Text.trimEnd content.toList) := by
  unfold readTemplate at h
  split at h
  · cases h
  · split at h
    · cases h
    · next content hread => exact ⟨content, hread, (Except.ok.inj h).symm⟩

def editorFor (t : Files) (url : String) (k : TemplateKind) (text : String) : Editor :=
  (Editor.ofConfigs (TemplateConfig.loadAll (.database url) t)).setDraft k text

theorem content_editorFor (t : Files) (url : String) (k : TemplateKind) (text : String) :
    (editorFor t url k text).drafts.map content = TemplateKind.all.map fun m =>
      (m, if m = k then text else (TemplateConfig.load (.database url) t m).template) := by
  cases k <;> rfl

theorem saveCommand_of_read {text : String} (hurl : s.databaseUrl = some url)
    (hfile : s.templateFiles = [(k, path)]) (hblank : Text.isBlankText url = false)
    (hread : readTemplate (t.touchDatabase url) path = .ok text) :
    let applied := (editorFor (t.touchDatabase url) url k text).apply (.database url)
      (t.touchDatabase url)
    saveCommand s t = match applied.fault with
      | some f => .fail (.ofEditor f) applied.state
      | none =>
        { result := .ok (), files := applied.state, events := [.templateSaved k.name] } := by
  have hrequire : requireUrl url = .ok url := by simp [requireUrl, hblank]
  simp only [saveCommand, hurl, hrequire, hfile, Editor.readDrafts, hread]
  rfl

theorem exists_applied_of_saved (hurl : s.databaseUrl = some url)
    (hfile : s.templateFiles = [(k, path)]) (hok : (saveCommand s t).result = .ok ()) :
    ∃ text, readTemplate (t.touchDatabase url) path = .ok text ∧
      let applied := (editorFor (t.touchDatabase url) url k text).apply (.database url)
        (t.touchDatabase url)
      applied.fault = none ∧ (saveCommand s t).files = applied.state ∧
        (saveCommand s t).events = [.templateSaved k.name] := by
  cases hblank : Text.isBlankText url with
  | true => simp [saveCommand, hurl, requireUrl, hblank, Performed.fail] at hok
  | false =>
    cases hread : readTemplate (t.touchDatabase url) path with
    | error f =>
      simp [saveCommand, hurl, requireUrl, hblank, hfile, Editor.readDrafts, hread,
        Performed.fail] at hok
    | ok text =>
      have hcommand := saveCommand_of_read hurl hfile hblank hread
      refine ⟨text, rfl, ?_⟩
      cases hfault : ((editorFor (t.touchDatabase url) url k text).apply (.database url)
          (t.touchDatabase url)).fault with
      | some f =>
        simp only [hfault] at hcommand
        rw [hcommand] at hok
        cases hok
      | none =>
        simp only [hfault] at hcommand
        rw [hcommand]
        exact ⟨hfault, rfl, rfl⟩

theorem exists_stored_of_saved (hurl : s.databaseUrl = some url)
    (hfile : s.templateFiles = [(k, path)]) (hok : (saveCommand s t).result = .ok ()) :
    ∃ text drafts, t.readText path = .ok text ∧
      drafts.map content = TemplateKind.all.map (fun m => (m, if m = k then
        String.ofList (Text.trimEnd text.toList)
        else (TemplateConfig.load (.database url) t m).template)) ∧
      storeTexts (.database url) t drafts = .ok (saveCommand s t).files ∧
      (saveCommand s t).events = [.templateSaved k.name] := by
  obtain ⟨text, hread, hfault, hfiles, hevents⟩ := exists_applied_of_saved hurl hfile hok
  obtain ⟨drafts, hdrafts⟩ : ∃ drafts,
      (editorFor (t.touchDatabase url) url k text).drafts = drafts := ⟨_, rfl⟩
  have hcontent := content_editorFor (t.touchDatabase url) url k text
  rw [hdrafts] at hcontent
  have hstored : storeTexts (.database url) (t.touchDatabase url) drafts =
      .ok (saveCommand s t).files := by
    rw [hfiles, ← hdrafts]
    rcases Editor.apply_cases (.database url) (t.touchDatabase url)
      (editorFor (t.touchDatabase url) url k text) with
      ⟨_, _, _, _, -, -, -, hr⟩ | ⟨-, ⟨_, _, _, _, _, -, -, -, hr⟩ | ⟨final, hfinal, hr⟩⟩
    · rw [hr] at hfault
      cases hfault
    · rw [hr] at hfault
      cases hfault
    · rw [hr]
      exact hfinal
  have htouch : t.touchDatabase url = t := by
    cases drafts with
    | nil => cases hcontent
    | cons d ds =>
      cases hsave : (TemplateStore.database url).save (t.touchDatabase url) d.config.kind
          d.text with
      | error f =>
        rw [storeTexts, hsave] at hstored
        cases hstored
      | ok mid => exact TemplateStore.touchDatabase_eq_self hsave
  rw [htouch] at hread hcontent hstored
  obtain ⟨content, hcontents, rfl⟩ := readTemplate_eq_ok hread
  exact ⟨content, drafts, hcontents, hcontent, hstored, hevents⟩

theorem kinds_of_content {drafts : List Draft} {text : TemplateKind → String}
    (h : drafts.map content = TemplateKind.all.map fun m => (m, text m)) :
    drafts.map (·.config.kind) = TemplateKind.all := by
  simpa [content, Function.comp_def] using congrArg (List.map Prod.fst) h

theorem load_of_stored {store : TemplateStore Files} (hstore : store.IsLawful) {t t' : Files}
    {drafts : List Draft} {text : TemplateKind → String}
    (hcontent : drafts.map content = TemplateKind.all.map fun m => (m, text m))
    (hstored : storeTexts store t drafts = .ok t') (m : TemplateKind) :
    store.load t' m = .ok (some (text m)) := by
  have hkinds : (drafts.map (·.config.kind)).Nodup := by
    rw [kinds_of_content hcontent]
    decide
  have hmem : (m, text m) ∈ drafts.map content := by
    rw [hcontent]
    exact List.mem_map_of_mem (by cases m <;> decide)
  obtain ⟨d, hd, hdraft⟩ := List.mem_map.1 hmem
  obtain ⟨rfl, htext⟩ := Prod.mk.inj hdraft
  rw [← htext]
  exact load_storeTexts_of_mem hstore hstored hkinds hd

theorem TemplateConfig.effective_not_blank (m : TemplateKind)
    (loaded : Except StoreFault (Option String)) :
    Text.isBlankText (effective m loaded) = false := by
  have hdefault : Text.isBlankText m.default = false := by cases m <;> rfl
  unfold effective
  split
  · split
    · exact hdefault
    · next hblank => exact Bool.eq_false_iff.2 hblank
  · exact hdefault

theorem load_template_stored_iff {store : TemplateStore Files} {t : Files} {m : TemplateKind} :
    Except.ok (some (TemplateConfig.load store t m).template) = store.load t m ↔
      ∃ text, store.load t m = .ok (some text) ∧ Text.isBlankText text = false := by
  constructor
  · intro h
    exact ⟨_, h.symm, TemplateConfig.effective_not_blank m _⟩
  · rintro ⟨text, hload, hblank⟩
    have htext : TemplateConfig.effective m (.ok (some text)) = text :=
      if_neg (Bool.eq_false_iff.1 hblank)
    rw [TemplateConfig.load, hload, htext]

/-- A save of one file stores the text of the file and writes the other row as well, with what is in
use for it, but it records the template of the file only. The other row holds what it held before
if and only if that was a text that is not blank. -/
theorem saveCommand_one_file (s : Settings) (t : Files) {url path : String} {k l : TemplateKind}
    (hurl : s.databaseUrl = some url) (hfile : s.templateFiles = [(k, path)]) (hl : l ≠ k)
    (hok : (saveCommand s t).result = .ok ()) :
    let store := TemplateStore.database url
    let saved := saveCommand s t
    ∃ text drafts, t.readText path = .ok text ∧
      drafts.map (·.config.kind) = TemplateKind.all ∧
      storeTexts store t drafts = .ok saved.files ∧ saved.events = [.templateSaved k.name] ∧
      store.load saved.files k = .ok (some (String.ofList (Text.trimEnd text.toList))) ∧
      store.load saved.files l = .ok (some (TemplateConfig.load store t l).template) ∧
      (store.load saved.files l = store.load t l ↔
        ∃ stored, store.load t l = .ok (some stored) ∧ Text.isBlankText stored = false) := by
  intro store saved
  obtain ⟨text, drafts, hread, hcontent, hstored, hevents⟩ := exists_stored_of_saved hurl hfile hok
  have hkinds := kinds_of_content hcontent
  have hload := load_of_stored (TemplateStore.database_isLawful url) hcontent hstored
  have hk := hload k
  have hother := hload l
  rw [if_pos rfl] at hk
  rw [if_neg hl] at hother
  refine ⟨text, drafts, hread, hkinds, hstored, hevents, hk, hother, ?_⟩
  rw [show store.load saved.files l = _ from hother]
  exact load_template_stored_iff

def newProject : Files :=
  .ofFiles ["project"] [("getter.vm", .text "/** Gets $field. */\n"),
    ("gendoc.sqlite", .database ⟨[Database.schemaVersion], .table {}⟩)]

def saveGetter : Settings where
  databaseUrl := some "gendoc.sqlite"
  getterTemplateFile := some "getter.vm"

theorem saveGetter_isOk : (saveCommand saveGetter newProject).result.isOk = true := by
  decide +kernel

theorem saveGetter_succeeds : (saveCommand saveGetter newProject).result = .ok () := by
  have hok := saveGetter_isOk
  cases hresult : (saveCommand saveGetter newProject).result with
  | ok _ => rfl
  | error f =>
    rw [hresult] at hok
    cases hok

theorem saveCommand_newProject :
    saveGetter.databaseUrl = some "gendoc.sqlite" ∧
      saveGetter.templateFiles = [(.getter, "getter.vm")] ∧
      (saveCommand saveGetter newProject).result = .ok () ∧
      (TemplateStore.database "gendoc.sqlite").load (saveCommand saveGetter newProject).files
          .setter =
        .ok (some
          (TemplateConfig.load (.database "gendoc.sqlite") newProject .setter).template) := by
  have hurl : saveGetter.databaseUrl = some "gendoc.sqlite" := rfl
  have hfile : saveGetter.templateFiles = [(.getter, "getter.vm")] := rfl
  have hkind : TemplateKind.setter ≠ .getter := nofun
  obtain ⟨_, _, -, -, -, -, -, hother, -⟩ :=
    saveCommand_one_file saveGetter newProject hurl hfile hkind saveGetter_succeeds
  exact ⟨hurl, hfile, saveGetter_succeeds, hother⟩

/-- Nothing is stored for setters, and after the getter template was saved the default is. No event
tells of it. -/
theorem saveCommand_stores_other :
    (saveCommand saveGetter newProject).result = .ok () ∧
      (TemplateStore.database "gendoc.sqlite").load newProject .setter = .ok none ∧
      (TemplateStore.database "gendoc.sqlite").load (saveCommand saveGetter newProject).files
        .setter = .ok (some TemplateKind.setter.default) ∧
      (saveCommand saveGetter newProject).events = [.templateSaved "Getter"] := by
  have hnone : (TemplateStore.database "gendoc.sqlite").load newProject .setter = .ok none := by
    decide +kernel
  have hurl : saveGetter.databaseUrl = some "gendoc.sqlite" := rfl
  have hfile : saveGetter.templateFiles = [(.getter, "getter.vm")] := rfl
  obtain ⟨_, _, -, hcontent, hstored, hevents⟩ :=
    exists_stored_of_saved hurl hfile saveGetter_succeeds
  have hload := load_of_stored (TemplateStore.database_isLawful _) hcontent hstored .setter
  rw [if_neg nofun, TemplateConfig.load, hnone] at hload
  exact ⟨saveGetter_succeeds, hnone, hload, hevents⟩

end BeanDoc
