import BeanDoc.Proofs.AppliedDrafts
import BeanDoc.Proofs.CheckedTemplate

/-! Editing sessions. Blank texts count as missing when templates are loaded, but a blank draft is
never valid. So the templates in use are at all times those that would be loaded, whatever was
stored at first and whichever saves are refused. -/

namespace BeanDoc

namespace Template

open Text DocComment

theorem isVerbatim_of_blank {cs : List Char} (h : allBlank cs = true) : IsVerbatim cs := by
  have hnot : ∀ c, isBlank c = false → c ∉ cs := by
    intro c hc hmem
    rw [allBlank_iff.1 h c hmem] at hc
    cases hc
  refine ⟨hnot '$' (by decide), hnot '\\' (by decide), ?_⟩
  intro b hpart
  exact hnot '{' (by decide) (hpart.subset List.mem_cons_self)

theorem check_ne_ok_of_blank {text : String} (h : isBlankText text = true) :
    check text ≠ .ok () := by
  intro hcheck
  let template : ReferenceTemplate := ⟨text.toList, [], .text (isVerbatim_of_blank h)⟩
  have hsource : template.source = text := by
    simp [template, ReferenceTemplate.source]
  have hfilled : template.filled .sample = text := by
    simp [template, ReferenceTemplate.filled]
  rw [← hsource, check_source_iff, hfilled] at hcheck
  obtain ⟨doc, hdoc⟩ := hcheck
  obtain ⟨inner, hbody, -⟩ := parse_eq_ok_iff.1 hdoc
  have htrim := body_eq_ok_iff.1 hbody
  rw [trim_eq_nil_iff.2 h] at htrim
  cases htrim

end Template

theorem TemplateConfig.effective_of_valid (k : TemplateKind) {text : String}
    (h : Template.check text = .ok ()) : effective k (.ok (some text)) = text := by
  have hblank : Text.isBlankText text ≠ true := fun hblank => Template.check_ne_ok_of_blank hblank h
  rw [effective, if_neg hblank]

inductive EditorStep where
  | setDraft (k : TemplateKind) (text : String)
  | reset
  | restoreDefaults
  | apply (refusal : TemplateKind → Option StoreFault)

structure EditingSession (σ : Type) where
  state : σ
  editor : Editor

namespace EditingSession

variable {σ : Type} {store : TemplateStore σ} {x : EditingSession σ}

def start (store : TemplateStore σ) (s : σ) : EditingSession σ :=
  ⟨s, .ofConfigs (TemplateConfig.loadAll store s)⟩

def perform (store : TemplateStore σ) (x : EditingSession σ) : EditorStep → EditingSession σ
  | .setDraft k text => ⟨x.state, x.editor.setDraft k text⟩
  | .reset => ⟨x.state, x.editor.reset⟩
  | .restoreDefaults => ⟨x.state, x.editor.restoreDefaults⟩
  | .apply refusal =>
    let applied := x.editor.apply (store.refusing refusal) x.state
    ⟨applied.state, applied.editor⟩

/-- There is one draft of each kind, and the templates in use are those that would be loaded. -/
structure InStep (store : TemplateStore σ) (x : EditingSession σ) : Prop where
  kinds : x.editor.drafts.map (·.config.kind) = TemplateKind.all
  inUse : ∀ d ∈ x.editor.drafts, d.config = TemplateConfig.load store x.state d.config.kind

theorem InStep.configs_eq (h : x.InStep store) :
    x.editor.configs = TemplateConfig.loadAll store x.state :=
  calc x.editor.configs
    _ = x.editor.drafts.map fun d => TemplateConfig.load store x.state d.config.kind :=
      List.map_congr_left h.inUse
    _ = (x.editor.drafts.map (·.config.kind)).map (TemplateConfig.load store x.state) := by
      rw [List.map_map]
      rfl
    _ = TemplateConfig.loadAll store x.state := by
      rw [h.kinds]
      rfl

theorem inStep_start (store : TemplateStore σ) (s : σ) : (start store s).InStep store where
  kinds := rfl
  inUse := by
    intro d hd
    obtain ⟨c, hc, rfl⟩ := List.mem_map.1 hd
    obtain ⟨k, -, rfl⟩ := List.mem_map.1 hc
    rfl

theorem InStep.of_map_config (h : x.InStep store) {drafts : List Draft}
    (hconfig : drafts.map (·.config) = x.editor.drafts.map (·.config)) :
    InStep store ⟨x.state, ⟨drafts⟩⟩ where
  kinds := by
    have hkinds := congrArg (List.map TemplateConfig.kind) hconfig
    simp only [List.map_map, Function.comp_def] at hkinds
    exact hkinds.trans h.kinds
  inUse := by
    intro d hd
    have hmem : d.config ∈ x.editor.drafts.map (·.config) :=
      hconfig ▸ List.mem_map_of_mem hd
    obtain ⟨e, he, heq⟩ := List.mem_map.1 hmem
    rw [← heq]
    exact h.inUse e he

theorem map_config_setFirst (k : TemplateKind) (text : String) (ds : List Draft) :
    (Draft.setFirst k text ds).map (·.config) = ds.map (·.config) := by
  induction ds with
  | nil => rfl
  | cons d ds ih =>
    rw [Draft.setFirst]
    split
    · rfl
    · rw [List.map_cons, List.map_cons, ih]

/-- What is loaded for a draft that was saved is its own text, since a valid text is not blank. -/
theorem committed_config_eq_load {s : σ} {d : Draft} (hvalid : Template.check d.text = .ok ())
    (hload : store.load s d.config.kind = .ok (some d.text)) :
    d.committed.config = TemplateConfig.load store s d.config.kind := by
  rw [TemplateConfig.load, hload, TemplateConfig.effective_of_valid _ hvalid]
  rfl

theorem load_config_congr {s s' : σ} {k : TemplateKind} (h : store.load s' k = store.load s k) :
    TemplateConfig.load store s' k = TemplateConfig.load store s k := by
  rw [TemplateConfig.load, h]
  rfl

theorem InStep.committed (hstore : store.IsLawful) (h : x.InStep store) {before rest : List Draft}
    {s' : σ} (hdrafts : x.editor.drafts = before ++ rest)
    (hvalid : ∀ d ∈ before, Template.check d.text = .ok ())
    (hstored : Draft.storeTexts store x.state before = .ok s') :
    InStep store ⟨s', ⟨before.map Draft.committed ++ rest⟩⟩ where
  kinds := by
    rw [← h.kinds, hdrafts, List.map_append, List.map_append, List.map_map]
    rfl
  inUse := by
    have hnodup : ((before ++ rest).map (·.config.kind)).Nodup := by
      rw [← hdrafts, h.kinds]
      decide
    rw [List.map_append, List.nodup_append] at hnodup
    obtain ⟨hnodup, -, hdisjoint⟩ := hnodup
    intro d hd
    rcases List.mem_append.1 hd with hd | hd
    · obtain ⟨b, hb, rfl⟩ := List.mem_map.1 hd
      exact committed_config_eq_load (hvalid b hb)
        (Draft.load_storeTexts_of_mem hstore hstored hnodup hb)
    · have hmem : d ∈ x.editor.drafts := hdrafts ▸ List.mem_append_right before hd
      have hkind : d.config.kind ∉ before.map (·.config.kind) := fun hkind =>
        hdisjoint _ hkind _ (List.mem_map_of_mem hd) rfl
      have hkept := Draft.load_storeTexts_of_not_mem hstore hstored hkind
      exact (h.inUse d hmem).trans (load_config_congr hkept).symm

theorem InStep.apply (hstore : store.IsLawful) (h : x.InStep store)
    (refusal : TemplateKind → Option StoreFault) :
    (x.perform store (.apply refusal)).InStep store := by
  -- the store that refuses loads what the store itself does
  have hlaw := hstore.refusing refusal
  have h' : x.InStep (store.refusing refusal) := ⟨h.kinds, h.inUse⟩
  suffices hdone : (x.perform store (.apply refusal)).InStep (store.refusing refusal) from
    ⟨hdone.kinds, hdone.inUse⟩
  dsimp only [EditingSession.perform]
  rcases Editor.apply_cases (store.refusing refusal) x.state x.editor with
    ⟨before, d, after, fault, -, -, -, hr⟩ |
    ⟨hvalid, ⟨before, d, after, mid, f, hdrafts, hbefore, -, hr⟩ | ⟨final, hfinal, hr⟩⟩
  · rw [hr]
    exact h'
  · have hvalid' : ∀ b ∈ before, Template.check b.text = .ok () := fun b hb =>
      hvalid b (hdrafts ▸ List.mem_append_left _ hb)
    rw [hr]
    exact h'.committed hlaw hdrafts hvalid' hbefore
  · have hdone := h'.committed hlaw (List.append_nil _).symm hvalid hfinal
    rw [List.append_nil] at hdone
    rw [hr]
    exact hdone

theorem InStep.perform (hstore : store.IsLawful) (h : x.InStep store) (step : EditorStep) :
    (x.perform store step).InStep store := by
  cases step with
  | setDraft k text => exact h.of_map_config (map_config_setFirst k text x.editor.drafts)
  | reset =>
    refine h.of_map_config ?_
    rw [List.map_map]
    rfl
  | restoreDefaults =>
    refine h.of_map_config ?_
    rw [List.map_map]
    rfl
  | apply refusal => exact h.apply hstore refusal

/-- At any point of a session the templates in use are those that would be loaded. -/
theorem configs_eq_loadAll (hstore : store.IsLawful) (s : σ) (steps : List EditorStep) :
    let x := steps.foldl (perform store) (start store s)
    x.editor.configs = TemplateConfig.loadAll store x.state := by
  have hrun : ∀ (steps : List EditorStep) (x : EditingSession σ), x.InStep store →
      (steps.foldl (perform store) x).InStep store := by
    intro steps
    induction steps with
    | nil => exact fun x h => h
    | cons step steps ih => exact fun x h => ih _ (h.perform hstore step)
  exact (hrun steps _ (inStep_start store s)).configs_eq

theorem configs_eq_loadAll_blank :
    let steps : List EditorStep := [.setDraft .getter " \n", .apply fun _ => none,
      .setDraft .getter "/** Gets $field. */", .setDraft .setter "/** Sets $field. */",
      .apply fun k => if k = .setter then some (.write (.checked (.refused "disk full"))) else none,
      .restoreDefaults]
    let x := steps.foldl (perform .memory) (start .memory { getter := some "\t" })
    TemplateStore.memory.IsLawful ∧ x.state = { getter := some "/** Gets $field. */" } ∧
      x.editor.configs = TemplateConfig.loadAll .memory x.state := by
  intro steps x
  exact ⟨TemplateStore.memory_isLawful, by decide +kernel,
    configs_eq_loadAll TemplateStore.memory_isLawful _ steps⟩

end EditingSession

end BeanDoc
