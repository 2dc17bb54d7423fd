import BeanDoc.Proofs.OpenedDatabase
import BeanDoc.TemplateConfig

/-! What is saved in a store is loaded again, and the other template stays as it was. The store in
memory keeps this law, and so does the one in a database: a save that succeeds replaces a file by a
file, so that the next call opens the same database. -/

namespace BeanDoc

namespace TemplateStore

variable {σ : Type}

/-- A save that succeeds sets one text and leaves the other alone. -/
structure IsLawful (store : TemplateStore σ) : Prop where
  load_save : ∀ {s s' : σ} {k : TemplateKind} {text : String}, store.save s k text = .ok s' →
    ∀ l, store.load s' l = if l = k then .ok (some text) else store.load s l

/-- The same store at a time when it refuses to save some templates. -/
def refusing (store : TemplateStore σ) (refusal : TemplateKind → Option StoreFault) :
    TemplateStore σ where
  load := store.load
  save s k text :=
    match refusal k with
    | some f => .error f
    | none => store.save s k text

theorem IsLawful.refusing {store : TemplateStore σ} (h : store.IsLawful)
    (refusal : TemplateKind → Option StoreFault) : (store.refusing refusal).IsLawful where
  load_save := by
    intro s s' k text hsave
    have hsaved : store.save s k text = .ok s' := by
      cases hr : refusal k with
      | none => simpa [TemplateStore.refusing, hr] using hsave
      | some f => simp [TemplateStore.refusing, hr] at hsave
    exact h.load_save hsaved

theorem memory_isLawful : memory.IsLawful where
  load_save := by
    intro s s' k text hsave l
    obtain rfl : s.set k text = s' := Except.ok.inj hsave
    show Except.ok ((s.set k text).get? l) = _
    rw [SavedTemplates.get?_set]
    split <;> rfl

end TemplateStore

theorem TemplateKind.storageKey_injective {k l : TemplateKind} (h : k.storageKey = l.storageKey) :
    k = l := by
  cases k <;> cases l
  · rfl
  · exact absurd h (by decide)
  · exact absurd h (by decide)
  · rfl

namespace Database

theorem textOf?_setRow (k l : TemplateKind) (text : String) (rows : List (String × Option String)) :
    textOf? l.storageKey (TemplateTable.setRow k.storageKey text rows) =
      if l = k then .ok (some text) else textOf? l.storageKey rows := by
  unfold textOf?
  rw [TemplateTable.lookup_setRow]
  by_cases hkind : l = k
  · rw [if_pos hkind, if_pos (congrArg TemplateKind.storageKey hkind)]
  · have hkey : l.storageKey ≠ k.storageKey := fun h => hkind (TemplateKind.storageKey_injective h)
    rw [if_neg hkind, if_neg hkey]

theorem set_eq_ok {d d' : Database} {k : TemplateKind} {text : String} (h : d.set k text = .ok d') :
    ∃ table, d.templates = .table table ∧ table.hasTexts = true ∧
      d' = ⟨d.versions,
        .table { table with rows := TemplateTable.setRow k.storageKey text table.rows }⟩ := by
  unfold set at h
  cases htemplates : d.templates with
  | absent => simp [htemplates] at h
  | view rows => simp [htemplates] at h
  | table table =>
    simp only [htemplates, TemplateTable.set] at h
    cases htexts : table.hasTexts with
    | false => simp [htexts] at h
    | true =>
      cases hkeys : table.hasUniqueKeys with
      | false => simp [htexts, hkeys] at h
      | true =>
        cases hrefusal : table.refusal with
        | some reason => simp [htexts, hkeys, hrefusal] at h
        | none =>
          refine ⟨table, rfl, htexts, ?_⟩
          simpa [htexts, hkeys, hrefusal, eq_comm] using h

theorem load_set {d d' : Database} {k : TemplateKind} {text : String} (h : d.set k text = .ok d')
    (l : TemplateKind) : d'.load l = if l = k then .ok (some text) else d.load l := by
  obtain ⟨table, htable, htexts, rfl⟩ := set_eq_ok h
  unfold load get? fault hasTable
  simp only [htable, htexts, if_true, textOf?_setRow]
  by_cases hkind : l = k
  · simp only [if_pos hkind]
  · simp only [if_neg hkind]

theorem save_eq_ok {d d' : Database} {readOnly : Bool} {k : TemplateKind} {text : String}
    (h : d.save readOnly k text = .ok d') : d.set k text = .ok d' := by
  unfold save at h
  split at h
  · next d'' hset =>
    obtain rfl := Except.ok.inj h
    cases readOnly with
    | false => exact hset
    | true =>
      -- a database that cannot be written never takes a text
      simp only [if_true, setReadOnly] at hset
      split at hset <;> cases hset
  · cases h

end Database

namespace TemplateStore

variable {url : String} {t t' : Files} {k : TemplateKind} {text : String}

theorem saveAt_eq_ok (h : saveAt url t k text = .ok t') :
    ∃ c place d d', Connection.establish t url = .ok c ∧ c.location = .file place ∧
      t.node? place = some (.file (.database d)) ∧ d.set k text = .ok d' ∧
      t' = t.put place (.file (.database d')) := by
  unfold saveAt at h
  split at h
  · cases h
  · next c hconnect =>
    split at h
    · cases h
    · next d hcontent =>
      split at h
      · cases h
      · next d' hsave =>
        obtain rfl := Except.ok.inj h
        have hset := Database.save_eq_ok hsave
        -- a new database has no table to write to
        have hnew : d ≠ {} := by
          rintro rfl
          obtain ⟨table, htable, -⟩ := Database.set_eq_ok hset
          cases htable
        have hempty : (FileContent.text "").toDatabase = .ok {} := rfl
        cases hlocation : c.location with
        | memory =>
          rw [hlocation] at hcontent
          exact absurd (Except.ok.inj (hcontent.symm.trans hempty)) hnew
        | file place =>
          rw [hlocation, DatabaseLocation.content] at hcontent
          refine ⟨c, place, d, d', hconnect, hlocation, ?_, hset, rfl⟩
          split at hcontent
          · next content hnode =>
            cases content with
            | database e => rw [hnode, Except.ok.inj hcontent]
            | binary => cases hcontent
            | text s =>
              simp only [FileContent.toDatabase] at hcontent
              split at hcontent
              · exact absurd (Except.ok.inj hcontent).symm hnew
              · cases hcontent
          · exact absurd (Except.ok.inj (hcontent.symm.trans hempty)) hnew

theorem loadAt_eq {c : Connection} {place : List String} {d : Database}
    (hconnect : Connection.establish t url = .ok c) (hlocation : c.location = .file place)
    (hnode : t.node? place = some (.file (.database d))) (l : TemplateKind) :
    loadAt url t l = d.load l := by
  simp only [loadAt, hconnect, hlocation, DatabaseLocation.content, hnode, FileContent.toDatabase]

theorem database_isLawful (url : String) : (database url).IsLawful where
  load_save := by
    intro t t' k text hsave l
    obtain ⟨c, place, d, d', hconnect, hlocation, hnode, hset, rfl⟩ := saveAt_eq_ok hsave
    have hplace : place ≠ [] := by
      rintro rfl
      cases hnode
    have hshape := FileTree.sameShape_put hnode (.database d')
    have hconnect' := (hshape.establish url).trans hconnect
    have hnode' : (t.put place (.file (.database d'))).node? place =
        some (.file (.database d')) := by
      rw [FileTree.node?_put t hplace, if_pos rfl]
    show loadAt url _ l = if l = k then .ok (some text) else loadAt url t l
    rw [loadAt_eq hconnect' hlocation hnode', loadAt_eq hconnect hlocation hnode]
    exact Database.load_set hset l

end TemplateStore

end BeanDoc
