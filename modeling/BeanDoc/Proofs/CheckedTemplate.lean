import BeanDoc.Proofs.EditedClass
import BeanDoc.Proofs.ReferenceRendering
import BeanDoc.Proofs.ReplacedWord

/-! Templates are checked with sample values only. For templates of plain text and references this
is enough: what is a documentation comment with these values is one with all ordinary values. -/

namespace BeanDoc.Template

open Text DocComment

structure IsOrdinary (s : String) : Prop where
  nonempty : s ≠ ""
  trimmed : trim s.toList = s.toList
  chars : ∀ c ∈ s.toList, c ≠ '*' ∧ c ≠ '/' ∧ c ≠ '{' ∧ c ≠ '@' ∧ c ≠ '\n'

instance (s : String) : Decidable (IsOrdinary s) :=
  decidable_of_iff (s ≠ "" ∧ trim s.toList = s.toList ∧ s.toList.all (fun c =>
      decide (c ≠ '*' ∧ c ≠ '/' ∧ c ≠ '{' ∧ c ≠ '@' ∧ c ≠ '\n')) = true)
    ⟨fun h => ⟨h.1, h.2.1, by simpa using h.2.2⟩,
      fun h => ⟨h.nonempty, h.trimmed, by simpa using h.chars⟩⟩

def Context.IsOrdinary (c : Context) : Prop :=
  ∀ v : Variable, ∃ s, v.value? c = some s ∧ Template.IsOrdinary s

namespace ReferenceTemplate

def before (t : ReferenceTemplate) (i : Nat) : List Char :=
  t.lead ++ (t.slots.take i).flatMap Slot.source

/-- No reference stands behind an `@` in one run of characters without white space. -/
def IsUnmarked (t : ReferenceTemplate) : Prop :=
  ∀ i < t.slots.length, '@' ∉ lastRun (t.before i)

instance (t : ReferenceTemplate) : Decidable t.IsUnmarked :=
  inferInstanceAs (Decidable (∀ i < t.slots.length, '@' ∉ lastRun (t.before i)))

end ReferenceTemplate

theorem IsOrdinary.isPlainWord {s : String} (h : IsOrdinary s) : IsPlainWord s.toList :=
  ⟨.of_trim (fun hnil => h.nonempty (String.toList_eq_nil_iff.1 hnil)) h.trimmed, h.chars⟩

theorem sample_isOrdinary (v : Variable) :
    ∃ s, v.value? .sample = some s ∧ IsOrdinary s ∧ '}' ∉ s.toList := by
  cases v <;> exact ⟨_, rfl, by decide, by decide⟩

/-- The values are replaced from left to right. What stands before a reference may differ from the
template in the values, but not in the run that leads up to the reference. -/
theorem accepted_filled {c : Context} (hc : c.IsOrdinary) {slots : List Slot} {source a : List Char}
    (hrun : '@' ∈ lastRun a → '@' ∈ lastRun source)
    (hmarks : ∀ i < slots.length, '@' ∉ lastRun (source ++ (slots.take i).flatMap Slot.source))
    (h : Accepted (a ++ slots.flatMap (Slot.filled .sample))) :
    Accepted (a ++ slots.flatMap (Slot.filled c)) := by
  induction slots generalizing source a with
  | nil => exact h
  | cons s slots ih =>
    obtain ⟨w, hw, hplain, hclose⟩ := sample_isOrdinary s.target
    obtain ⟨w', hw', hplain'⟩ := hc s.target
    have hfirst : '@' ∉ lastRun source := by simpa using hmarks 0 (by simp)
    have hsample : s.filled .sample = w.toList ++ s.after := by rw [Slot.filled, hw]; rfl
    have hfilled : s.filled c = w'.toList ++ s.after := by rw [Slot.filled, hw']; rfl
    rw [List.flatMap_cons, hsample, List.append_assoc] at h
    have hone := accepted_replace hplain.isPlainWord hplain'.isPlainWord hclose
      (fun hmem => hfirst (hrun hmem)) h
    have hrun' : '@' ∈ lastRun (a ++ (w'.toList ++ s.after)) →
        '@' ∈ lastRun (source ++ s.source) := by
      intro hmem
      rcases mem_lastRun_append.1 hmem with hmem | ⟨-, hmem⟩
      · rcases mem_lastRun_append.1 hmem with hmem | ⟨-, hmem⟩
        · exact mem_lastRun_of_suffix ⟨source ++ s.reference.spelling, by simp [Slot.source]⟩ hmem
        · have hvalue : '@' ∈ w'.toList := (List.rtakeWhile_suffix _ _).subset hmem
          exact absurd rfl (hplain'.chars '@' hvalue).2.2.2.1
      · exact absurd (hrun hmem) hfirst
    have hmarks' : ∀ i < slots.length,
        '@' ∉ lastRun (source ++ s.source ++ (slots.take i).flatMap Slot.source) := by
      intro i hi
      simpa using hmarks (i + 1) (by simpa using hi)
    have hrest : Accepted (a ++ (w'.toList ++ s.after) ++ slots.flatMap (Slot.filled .sample)) := by
      simpa using hone
    simpa [hfilled] using ih hrun' hmarks' hrest

theorem check_source_iff (t : ReferenceTemplate) :
    check t.source = .ok () ↔ ∃ doc, DocComment.parse (t.filled .sample) = .ok doc := by
  have hrender := render_source t .sample
  cases hparse : DocComment.parse (t.filled .sample) <;>
    simp [check, checkWith, hrender, hparse]

theorem applyEdit_ne_malformed {m : ClassModel} {e : Edit} {doc : DocComment}
    (h : DocComment.parse e.comment = .ok doc) (name : String) (f : DocComment.Fault) :
    (m.applyEdit e).1 ≠ .error (.malformedComment name f) := by
  unfold ClassModel.applyEdit
  split
  · nofun
  · split
    · nofun
    · rw [h]
      nofun

/-- A template passes its check if and only if it renders to a documentation comment with all
ordinary values, which no class rejects as malformed. -/
theorem check_eq_ok_iff_ordinary (t : ReferenceTemplate) (ht : t.IsUnmarked) :
    check t.source = .ok () ↔ ∀ c : Context, c.IsOrdinary →
      ∃ text doc, render t.source c = .ok text ∧ DocComment.parse text = .ok doc ∧
        ∀ (m : ClassModel) (e : Edit), e.comment = text →
          ∀ name f, (m.applyEdit e).1 ≠ .error (.malformedComment name f) := by
  rw [check_source_iff]
  constructor
  · intro h c hc
    obtain ⟨doc, hdoc⟩ : ∃ doc, DocComment.parse (t.filled c) = .ok doc :=
      accepted_filled hc id ht h
    refine ⟨t.filled c, doc, render_source t c, hdoc, ?_⟩
    intro m e he
    exact applyEdit_ne_malformed (he ▸ hdoc)
  · intro h
    have hsample : Context.sample.IsOrdinary := by
      intro v
      obtain ⟨s, hs, hordinary, -⟩ := sample_isOrdinary v
      exact ⟨s, hs, hordinary⟩
    obtain ⟨text, doc, htext, hdoc, -⟩ := h .sample hsample
    rw [render_source] at htext
    exact ⟨doc, Except.ok.inj htext ▸ hdoc⟩

def spelledTemplate : ReferenceTemplate where
  lead := "/**\n * Sets the \x7b@code ".toList
  slots := [⟨.className, true, true, "\x7d of ".toList⟩,
    ⟨.field, false, false, ".\n * @param ".toList⟩, ⟨.field, true, false, " the ".toList⟩,
    ⟨.fieldType, false, true, "\n */".toList⟩]
  alternates := by
    refine .slot ?_ ?_ (.inl rfl) (.slot ?_ ?_ (.inr ?_) (.slot ?_ ?_ (.inr ?_)
      (.slot ?_ ?_ (.inl rfl) (.text ?_)))) <;> decide

theorem check_spelledTemplate :
    let c : Context := ⟨some "new value\x7d", some "List<? extends T>", "Foo", "a.b.Foo", "p"⟩
    spelledTemplate.IsUnmarked ∧ check spelledTemplate.source = .ok () ∧ c.IsOrdinary ∧
      ∃ text doc, render spelledTemplate.source c = .ok text ∧ DocComment.parse text = .ok doc := by
  intro c
  have ht : spelledTemplate.IsUnmarked := by decide
  have hcheck : check spelledTemplate.source = .ok () := by
    refine (check_source_iff _).2 ⟨⟨"Sets the \x7b@code MyClass\x7d of testName.",
      [⟨"param", some "testName", "the int"⟩]⟩, ?_⟩
    decide +kernel
  have hc : c.IsOrdinary := by
    intro v
    cases v <;> exact ⟨_, rfl, by decide⟩
  obtain ⟨text, doc, hrender, hdoc, -⟩ :=
    (check_eq_ok_iff_ordinary spelledTemplate ht).1 hcheck c hc
  exact ⟨ht, hcheck, hc, text, doc, hrender, hdoc⟩

end BeanDoc.Template
