import BeanDoc.Editor
import BeanDoc.Proofs.StoreLaws
import Mathlib.Data.List.Nodup

/-! Applying drafts. A draft that is not valid keeps all of them from being saved. Otherwise they
are saved in order, and a save that fails leaves its own draft and the later ones as they were. -/

namespace BeanDoc

section
variable {σ : Type} {store : TemplateStore σ} {s s' mid : σ}

namespace TemplateConfig

variable {c : TemplateConfig} {text : String}

theorem save_of_stored (h : store.save s c.kind text = .ok s') :
    c.save store s text = (.ok s', ⟨c.kind, text⟩) := by
  rw [save, h]

theorem save_of_refused {f : StoreFault} (h : store.save s c.kind text = .error f) :
    c.save store s text = (.error ⟨c.kind, f⟩, c) := by
  rw [save, h]

end TemplateConfig

namespace Draft

def committed (d : Draft) : Draft :=
  ⟨⟨d.config.kind, d.text⟩, d.text⟩

def content (d : Draft) : TemplateKind × String :=
  (d.config.kind, d.text)

def storeTexts (store : TemplateStore σ) : σ → List Draft → Except StoreFault σ
  | s, [] => .ok s
  | s, d :: ds =>
    match store.save s d.config.kind d.text with
    | .error f => .error f
    | .ok s => storeTexts store s ds

@[simp]
theorem content_committed (d : Draft) : d.committed.content = d.content :=
  rfl

theorem map_content_committed (ds : List Draft) :
    (ds.map committed).map content = ds.map content := by
  simp

theorem isModified_committed (d : Draft) : d.committed.isModified = false := by
  simp [isModified, committed]

theorem storeTexts_cons_of_ok {d : Draft} (h : store.save s d.config.kind d.text = .ok s')
    (ds : List Draft) : storeTexts store s (d :: ds) = storeTexts store s' ds := by
  rw [storeTexts, h]

theorem storeTexts_cases (store : TemplateStore σ) (s : σ) (ds : List Draft) :
    (∃ s', storeTexts store s ds = .ok s') ∨
      ∃ before d after mid f, ds = before ++ d :: after ∧
        storeTexts store s before = .ok mid ∧ store.save mid d.config.kind d.text = .error f := by
  induction ds generalizing s with
  | nil => exact .inl ⟨s, rfl⟩
  | cons d ds ih =>
    cases hsave : store.save s d.config.kind d.text with
    | error f => exact .inr ⟨[], d, ds, s, f, rfl, rfl, hsave⟩
    | ok s' =>
      rcases ih s' with ⟨s'', hrest⟩ | ⟨before, e, after, mid, f, rfl, hbefore, he⟩
      · exact .inl ⟨s'', (storeTexts_cons_of_ok hsave ds).trans hrest⟩
      · have hbefore' := (storeTexts_cons_of_ok hsave before).trans hbefore
        exact .inr ⟨d :: before, e, after, mid, f, rfl, hbefore', he⟩

theorem saveAll_append {before : List Draft} (h : storeTexts store s before = .ok mid)
    (rest : List Draft) :
    saveAll store s (before ++ rest) =
      ⟨(saveAll store mid rest).state, before.map committed ++ (saveAll store mid rest).drafts,
        (saveAll store mid rest).fault⟩ := by
  induction before generalizing s with
  | nil =>
    obtain rfl : s = mid := Except.ok.inj h
    rfl
  | cons d before ih =>
    cases hsave : store.save s d.config.kind d.text with
    | error f => simp [storeTexts, hsave] at h
    | ok s' =>
      rw [storeTexts_cons_of_ok hsave] at h
      rw [List.cons_append, saveAll, TemplateConfig.save_of_stored hsave]
      simp only [ih h]
      rfl

theorem saveAll_of_refused {d : Draft} {f : StoreFault}
    (h : store.save s d.config.kind d.text = .error f) (after : List Draft) :
    saveAll store s (d :: after) = ⟨s, d :: after, some ⟨d.config.kind, f⟩⟩ := by
  rw [saveAll, TemplateConfig.save_of_refused h]

theorem load_storeTexts_of_not_mem (hstore : store.IsLawful) {ds : List Draft}
    (h : storeTexts store s ds = .ok s') {k : TemplateKind}
    (hk : k ∉ ds.map (·.config.kind)) : store.load s' k = store.load s k := by
  induction ds generalizing s with
  | nil =>
    obtain rfl : s = s' := Except.ok.inj h
    rfl
  | cons d ds ih =>
    cases hsave : store.save s d.config.kind d.text with
    | error f => simp [storeTexts, hsave] at h
    | ok s₁ =>
      rw [storeTexts_cons_of_ok hsave] at h
      simp only [List.map_cons, List.mem_cons, not_or] at hk
      rw [ih h hk.2, hstore.load_save hsave, if_neg hk.1]

/-- Each text is there in the end, since no later draft is of the same kind. -/
theorem load_storeTexts_of_mem (hstore : store.IsLawful) {ds : List Draft}
    (h : storeTexts store s ds = .ok s') (hkinds : (ds.map (·.config.kind)).Nodup) {d : Draft}
    (hd : d ∈ ds) : store.load s' d.config.kind = .ok (some d.text) := by
  induction ds generalizing s with
  | nil => simp at hd
  | cons e ds ih =>
    cases hsave : store.save s e.config.kind e.text with
    | error f => simp [storeTexts, hsave] at h
    | ok s₁ =>
      rw [storeTexts_cons_of_ok hsave] at h
      rw [List.map_cons, List.nodup_cons] at hkinds
      rcases List.mem_cons.1 hd with rfl | hd
      · rw [load_storeTexts_of_not_mem hstore h hkinds.1, hstore.load_save hsave, if_pos rfl]
      · exact ih h hkinds.2 hd

theorem firstInvalid?_cons_of_ok {d : Draft} (h : Template.check d.text = .ok ())
    (ds : List Draft) : firstInvalid? (d :: ds) = firstInvalid? ds := by
  rw [firstInvalid?, h]

theorem firstInvalid?_cons_of_error {d : Draft} {f : TemplateFault}
    (h : Template.check d.text = .error f) (ds : List Draft) :
    firstInvalid? (d :: ds) = some (.invalid d.config.kind f) := by
  unfold firstInvalid?
  rw [h]

theorem firstInvalid?_eq_none_iff {ds : List Draft} :
    firstInvalid? ds = none ↔ ∀ d ∈ ds, Template.check d.text = .ok () := by
  induction ds with
  | nil => exact ⟨nofun, fun _ => rfl⟩
  | cons d ds ih =>
    cases hcheck : Template.check d.text with
    | error f => simp [firstInvalid?_cons_of_error hcheck, hcheck]
    | ok _ => simp [firstInvalid?_cons_of_ok hcheck, hcheck, ih]

theorem firstInvalid?_eq_some {ds : List Draft} {f : EditorFault} (h : firstInvalid? ds = some f) :
    ∃ before d after fault, ds = before ++ d :: after ∧
      (∀ b ∈ before, Template.check b.text = .ok ()) ∧ Template.check d.text = .error fault ∧
      f = .invalid d.config.kind fault := by
  induction ds with
  | nil => cases h
  | cons d ds ih =>
    cases hcheck : Template.check d.text with
    | error fault =>
      rw [firstInvalid?_cons_of_error hcheck] at h
      exact ⟨[], d, ds, fault, rfl, by simp, hcheck, (Option.some.inj h).symm⟩
    | ok _ =>
      rw [firstInvalid?_cons_of_ok hcheck] at h
      obtain ⟨before, e, after, fault, rfl, hvalid, he, hf⟩ := ih h
      exact ⟨d :: before, e, after, fault, rfl, List.forall_mem_cons.2 ⟨hcheck, hvalid⟩, he, hf⟩

end Draft

namespace Editor

open Draft

theorem apply_of_invalid {e : Editor} {f : EditorFault} (h : firstInvalid? e.drafts = some f) :
    e.apply store s = ⟨s, e, some f⟩ := by
  rw [apply, h]

theorem apply_of_valid {e : Editor} (h : ∀ d ∈ e.drafts, Template.check d.text = .ok ()) :
    e.apply store s = ⟨(saveAll store s e.drafts).state, ⟨(saveAll store s e.drafts).drafts⟩,
      (saveAll store s e.drafts).fault.map .save⟩ := by
  rw [apply, firstInvalid?_eq_none_iff.2 h]

theorem apply_of_refused {e : Editor} (h : ∀ d ∈ e.drafts, Template.check d.text = .ok ())
    {before after : List Draft} {d : Draft} {f : StoreFault}
    (hdrafts : e.drafts = before ++ d :: after) (hbefore : storeTexts store s before = .ok mid)
    (hd : store.save mid d.config.kind d.text = .error f) :
    e.apply store s =
      ⟨mid, ⟨before.map committed ++ d :: after⟩, some (.save ⟨d.config.kind, f⟩)⟩ := by
  rw [apply_of_valid h, hdrafts, saveAll_append hbefore, saveAll_of_refused hd]
  rfl

theorem apply_of_stored {e : Editor} (h : ∀ d ∈ e.drafts, Template.check d.text = .ok ())
    (hstored : storeTexts store s e.drafts = .ok s') :
    e.apply store s = ⟨s', ⟨e.drafts.map committed⟩, none⟩ := by
  have hsaved := saveAll_append hstored []
  simp only [List.append_nil, saveAll] at hsaved
  rw [apply_of_valid h, hsaved]
  rfl

theorem apply_cases (store : TemplateStore σ) (s : σ) (e : Editor) :
    (∃ before d after fault, e.drafts = before ++ d :: after ∧
      (∀ b ∈ before, Template.check b.text = .ok ()) ∧ Template.check d.text = .error fault ∧
      e.apply store s = ⟨s, e, some (.invalid d.config.kind fault)⟩) ∨
    (∀ d ∈ e.drafts, Template.check d.text = .ok ()) ∧
      ((∃ before d after mid f, e.drafts = before ++ d :: after ∧
        storeTexts store s before = .ok mid ∧ store.save mid d.config.kind d.text = .error f ∧
        e.apply store s =
          ⟨mid, ⟨before.map committed ++ d :: after⟩, some (.save ⟨d.config.kind, f⟩)⟩) ∨
      ∃ s', storeTexts store s e.drafts = .ok s' ∧
        e.apply store s = ⟨s', ⟨e.drafts.map committed⟩, none⟩) := by
  cases hfirst : firstInvalid? e.drafts with
  | some f =>
    obtain ⟨before, d, after, fault, hdrafts, hbefore, hd, rfl⟩ := firstInvalid?_eq_some hfirst
    exact .inl ⟨before, d, after, fault, hdrafts, hbefore, hd, apply_of_invalid hfirst⟩
  | none =>
    have hvalid := firstInvalid?_eq_none_iff.1 hfirst
    rcases storeTexts_cases store s e.drafts with
      ⟨s', hstored⟩ | ⟨before, d, after, mid, f, hdrafts, hbefore, hd⟩
    · exact .inr ⟨hvalid, .inr ⟨s', hstored, apply_of_stored hvalid hstored⟩⟩
    · exact .inr ⟨hvalid, .inl ⟨before, d, after, mid, f, hdrafts, hbefore, hd,
        apply_of_refused hvalid hdrafts hbefore hd⟩⟩

theorem isModified_committed (ds : List Draft) : isModified ⟨ds.map committed⟩ = false := by
  simp [isModified, Draft.isModified_committed]

/-- Applying drafts of different kinds. If one of them is not valid, the first such draft is named
and nothing changes. Otherwise, if a text is refused, those before it are stored and in use, and
from it on nothing changes; if none is refused, all are stored and in use. The drafts themselves
never change. -/
theorem apply_all_or_nothing (hstore : store.IsLawful) (s : σ) (e : Editor)
    (hkinds : (e.drafts.map (·.config.kind)).Nodup) :
    let r := e.apply store s
    ((∃ d ∈ e.drafts, Template.check d.text ≠ .ok ()) →
      ∃ before d after fault, e.drafts = before ++ d :: after ∧
        (∀ b ∈ before, Template.check b.text = .ok ()) ∧ Template.check d.text = .error fault ∧
        r.fault = some (.invalid d.config.kind fault) ∧ r.state = s ∧ r.editor = e) ∧
    ((∀ d ∈ e.drafts, Template.check d.text = .ok ()) →
      (∃ before d after mid f, e.drafts = before ++ d :: after ∧
        storeTexts store s before = .ok mid ∧ store.save mid d.config.kind d.text = .error f ∧
        r.fault = some (.save ⟨d.config.kind, f⟩) ∧ r.state = mid ∧
        r.editor.drafts = before.map committed ++ d :: after ∧
        (∀ b ∈ before, store.load r.state b.config.kind = .ok (some b.text)) ∧
        ∀ a ∈ d :: after, store.load r.state a.config.kind = store.load s a.config.kind) ∨
      (storeTexts store s e.drafts = .ok r.state ∧ r.fault = none ∧
        r.editor.drafts = e.drafts.map committed ∧ r.editor.isModified = false ∧
        ∀ d ∈ r.editor.drafts, store.load r.state d.config.kind = .ok (some d.text) ∧
          d.config.template = d.text)) ∧
    r.editor.drafts.map content = e.drafts.map content := by
  intro r
  rcases apply_cases store s e with ⟨before, d, after, fault, hdrafts, hbefore, hd, hr⟩ |
    ⟨hvalid, ⟨before, d, after, mid, f, hdrafts, hbefore, hd, hr⟩ | ⟨final, hfinal, hr⟩⟩
  · have hmem : d ∈ e.drafts := hdrafts ▸ List.mem_append_right before List.mem_cons_self
    rw [show r = _ from hr]
    refine ⟨fun _ => ⟨before, d, after, fault, hdrafts, hbefore, hd, rfl, rfl, rfl⟩, ?_, rfl⟩
    intro hvalid
    rw [hvalid d hmem] at hd
    cases hd
  · rw [hdrafts, List.map_append, List.nodup_append] at hkinds
    obtain ⟨hnodup, -, hdisjoint⟩ := hkinds
    rw [show r = _ from hr]
    refine ⟨?_, ?_, ?_⟩
    · rintro ⟨d, hmem, hnot⟩
      exact absurd (hvalid d hmem) hnot
    · intro _
      refine .inl ⟨before, d, after, mid, f, hdrafts, hbefore, hd, rfl, rfl, rfl, ?_, ?_⟩
      · intro b hb
        exact load_storeTexts_of_mem hstore hbefore hnodup hb
      · intro a ha
        have hkind : a.config.kind ∉ before.map (·.config.kind) := fun hmem =>
          hdisjoint _ hmem _ (List.mem_map_of_mem ha) rfl
        exact load_storeTexts_of_not_mem hstore hbefore hkind
    · rw [hdrafts, List.map_append, List.map_append, map_content_committed]
  · rw [show r = _ from hr]
    refine ⟨?_, ?_, map_content_committed e.drafts⟩
    · rintro ⟨d, hmem, hnot⟩
      exact absurd (hvalid d hmem) hnot
    · intro _
      refine .inr ⟨hfinal, rfl, rfl, isModified_committed e.drafts, ?_⟩
      intro d hd
      obtain ⟨d', hd', rfl⟩ := List.mem_map.1 hd
      have hload : store.load final d'.config.kind = .ok (some d'.text) :=
        load_storeTexts_of_mem hstore hfinal hkinds hd'
      exact ⟨hload, rfl⟩

theorem apply_stops_at_setter :
    let store := TemplateStore.memory.refusing fun k =>
      if k = .setter then some (.write (.checked (.refused "disk full"))) else none
    let e : Editor := ⟨[⟨⟨.getter, TemplateKind.getter.default⟩, "/** Gets $field. */"⟩,
      ⟨⟨.setter, TemplateKind.setter.default⟩, "/** Sets $field. */"⟩]⟩
    store.IsLawful ∧ (e.drafts.map (·.config.kind)).Nodup ∧
      (∀ d ∈ e.drafts, Template.check d.text = .ok ()) ∧
      (e.apply store {}).fault.isSome ∧
      ∃ before d after, e.drafts = before ++ d :: after ∧
        (∀ b ∈ before, store.load (e.apply store {}).state b.config.kind = .ok (some b.text)) ∧
        ∀ a ∈ d :: after,
          store.load (e.apply store {}).state a.config.kind = store.load {} a.config.kind := by
  intro store e
  have hstore : store.IsLawful := TemplateStore.memory_isLawful.refusing _
  have hkinds : (e.drafts.map (·.config.kind)).Nodup := by decide
  have hvalid : ∀ d ∈ e.drafts, Template.check d.text = .ok () := by decide +kernel
  have hfault : (e.apply store {}).fault.isSome := by decide +kernel
  obtain ⟨-, houtcome, -⟩ := apply_all_or_nothing hstore {} e hkinds
  rcases houtcome hvalid with
    ⟨before, d, after, mid, f, hdrafts, -, -, -, -, -, hbefore, hafter⟩ | ⟨-, hnone, -⟩
  · exact ⟨hstore, hkinds, hvalid, hfault, before, d, after, hdrafts, hbefore, hafter⟩
  · rw [hnone] at hfault
    cases hfault

end Editor

end

end BeanDoc
