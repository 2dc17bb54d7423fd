import BeanDoc.Command.Generate
import BeanDoc.Proofs.OfferedMethods
import BeanDoc.Proofs.TextLines
import BeanDoc.Proofs.TrimmedText

/-! Methods chosen by name. A list of names is written with commas between them; white space around
a name and entries without a name do not count. The methods that are chosen are the candidates with
one of the names, and the order in which the names stand has no part in it. -/

namespace BeanDoc

open Text

namespace Settings

structure IsListable (name : String) : Prop where
  solid : Solid name.toList
  noComma : ',' ∉ name.toList

/-- The entries that a list of names may be written with. Each name has an entry of its own, with
white space around it, and there may be blank entries anywhere. -/
inductive Entries : List String → List (List Char) → Prop
  | nil : Entries [] []
  | blank {entry : List Char} {names : List String} {entries : List (List Char)}
      (hentry : allBlank entry = true) (hrest : Entries names entries) :
      Entries names (entry :: entries)
  | name {name : String} {before after : List Char} {names : List String}
      {entries : List (List Char)} (hname : IsListable name) (hbefore : allBlank before = true)
      (hafter : allBlank after = true) (hrest : Entries names entries) :
      Entries (name :: names) ((before ++ name.toList ++ after) :: entries)

def namesIn (entries : List (List Char)) : List String :=
  ((entries.map trim).filter (!·.isEmpty)).map String.ofList

theorem splitNames_eq (text : String) : splitNames text = namesIn (pieces ',' text.toList) := rfl

variable {names : List String} {entries : List (List Char)}

theorem namesIn_blank_cons {entry : List Char} (h : allBlank entry = true) :
    namesIn (entry :: entries) = namesIn entries := by
  simp [namesIn, trim_eq_nil_iff.2 h]

theorem namesIn_cons {entry : List Char} (h : allBlank entry = false) :
    namesIn (entry :: entries) = String.ofList (trim entry) :: namesIn entries := by
  have hne : trim entry ≠ [] := (Solid.of_not_allBlank h).ne_nil
  simp [namesIn, hne]

theorem IsListable.entry {name : String} {before after : List Char} (hname : IsListable name)
    (hbefore : allBlank before = true) (hafter : allBlank after = true) :
    ',' ∉ before ++ name.toList ++ after ∧ trim (before ++ name.toList ++ after) = name.toList := by
  have hcomma : isBlank ',' = false := by decide
  constructor
  · simp [not_mem_of_allBlank hcomma hbefore, not_mem_of_allBlank hcomma hafter, hname.noComma]
  · rw [trim_append_blank hafter, trim_blank_append hbefore, hname.solid.trim_eq_self]

theorem Entries.noComma (h : Entries names entries) : ∀ entry ∈ entries, ',' ∉ entry := by
  induction h with
  | nil => exact List.forall_mem_nil _
  | blank hentry _ ih => exact List.forall_mem_cons.2 ⟨not_mem_of_allBlank (by decide) hentry, ih⟩
  | name hname hbefore hafter _ ih =>
    exact List.forall_mem_cons.2 ⟨(hname.entry hbefore hafter).1, ih⟩

theorem Entries.namesIn_eq (h : Entries names entries) : namesIn entries = names := by
  induction h with
  | nil => rfl
  | blank hentry _ ih => rw [namesIn_blank_cons hentry, ih]
  | @name name before after _ _ hname hbefore hafter _ ih =>
    have htrim := (hname.entry hbefore hafter).2
    have hnot : allBlank (before ++ name.toList ++ after) = false := by
      rw [Bool.eq_false_iff, Ne, ← trim_eq_nil_iff, htrim]
      exact hname.solid.ne_nil
    rw [namesIn_cons hnot, htrim, String.ofList_toList, ih]

theorem entries_namesIn (h : ∀ entry ∈ entries, ',' ∉ entry) :
    Entries (namesIn entries) entries := by
  induction entries with
  | nil => exact .nil
  | cons entry entries ih =>
    obtain ⟨hentry, hentries⟩ := List.forall_mem_cons.1 h
    cases hblank : allBlank entry with
    | true =>
      rw [namesIn_blank_cons hblank]
      exact .blank hblank (ih hentries)
    | false =>
      have hname : IsListable (String.ofList (trim entry)) := by
        constructor
        · rw [String.toList_ofList]
          exact Solid.of_not_allBlank hblank
        · rw [String.toList_ofList]
          exact fun hmem => hentry ((trim_isInfix entry).subset hmem)
      obtain ⟨before, after, hbefore, hafter, hsplit⟩ := exists_eq_append_trim_append entry
      have hstep := Entries.name hname hbefore hafter (ih hentries)
      rw [String.toList_ofList, ← hsplit] at hstep
      rwa [namesIn_cons hblank]

theorem splitNames_eq_iff {text : String} :
    splitNames text = names ↔
      ∃ entries, Entries names entries ∧ text = String.ofList (join [','] entries) := by
  constructor
  · rintro rfl
    refine ⟨pieces ',' text.toList, entries_namesIn fun entry hmem => (mem_pieces hmem).2, ?_⟩
    rw [join_pieces, String.ofList_toList]
  · rintro ⟨entries, hentries, rfl⟩
    rw [splitNames_eq, String.toList_ofList]
    cases entries with
    | nil =>
      -- without entries the text is empty, as it is with one that is
      cases hentries
      rfl
    | cons entry entries =>
      rw [pieces_join (List.cons_ne_nil entry entries) hentries.noComma, hentries.namesIn_eq]

end Settings

namespace Selector

theorem mem_chosen_names {c : ClassModel} {category : Accessor.Category} {names : List String}
    {i : Nat} : i ∈ c.chosen category names.contains ↔
      i ∈ c.candidates category ∧ ∃ m, c.methods[i]? = some m ∧ m.name ∈ names := by
  rw [ClassModel.chosen, List.mem_filter, Option.any_eq_true]
  simp only [List.contains_iff_mem]

/-- Names are looked up, so that neither their order nor a repetition matters. -/
theorem named_congr {names others : List String} (h : ∀ name, name ∈ others ↔ name ∈ names)
    (overwrite : Bool) : named others overwrite = named names overwrite := by
  have hcontains : others.contains = names.contains := by
    funext name
    rw [Bool.eq_iff_iff, List.contains_iff_mem, List.contains_iff_mem, h]
  unfold named
  rw [hcontains]

end Selector

namespace Settings

variable {names : List String}

theorem methodNames_eq_some_iff {s : Settings} : s.methodNames = some names ↔
    ∃ entries, Entries names entries ∧ s.methods = some (String.ofList (join [','] entries)) := by
  rw [methodNames, Option.map_eq_some_iff]
  constructor
  · rintro ⟨text, htext, hnames⟩
    obtain ⟨entries, hentries, rfl⟩ := splitNames_eq_iff.1 hnames
    exact ⟨entries, hentries, htext⟩
  · rintro ⟨entries, hentries, hmethods⟩
    exact ⟨_, hmethods, splitNames_eq_iff.2 ⟨entries, hentries, rfl⟩⟩

/-- The methods that are named are those of the list, and they are chosen as far as they are
candidates: each of them once, in the order of the class. -/
theorem methods_option_selects (s : Settings) (names : List String) :
    (s.methodNames = some names ↔
      ∃ entries, Entries names entries ∧ s.methods = some (String.ofList (join [','] entries))) ∧
    (s.methodNames = some names → ∀ (c : ClassModel) (category : Accessor.Category),
      ∃ selected, s.selector c (c.candidates category) = some ⟨selected, s.overwrite⟩ ∧
        selected.Pairwise (· < ·) ∧
        (∀ i, i ∈ selected ↔ i ∈ c.candidates category ∧
          ∃ m, c.methods[i]? = some m ∧ m.name ∈ names) ∧
        ∀ others : List String, (∀ name, name ∈ others ↔ name ∈ names) →
          Selector.named others s.overwrite c (c.candidates category) =
            some ⟨selected, s.overwrite⟩) := by
  refine ⟨methodNames_eq_some_iff, fun hnames c category => ?_⟩
  have hselector : s.selector = Selector.named names s.overwrite := by rw [selector, hnames]
  have hselected : Selector.named names s.overwrite c (c.candidates category) =
      some ⟨c.chosen category names.contains, s.overwrite⟩ :=
    Selector.named_goesByName names s.overwrite c category
  refine ⟨c.chosen category names.contains, hselector ▸ hselected, ?_, ?_, ?_⟩
  · exact (c.candidates_pairwise category).filter _
  · exact fun i => Selector.mem_chosen_names
  · intro others hothers
    rw [Selector.named_congr hothers, hselected]

example : splitNames ",\u3000getBar,, setBar\t," = ["getBar", "setBar"] := by decide

end Settings

end BeanDoc
