import BeanDoc.Proofs.ReferenceRendering

/-! Templates of plain text and references, filled with values. A template can be taken apart into
text and references in one way only, so the filled text depends on nothing but the template and the
values. Newlines at its end are those of the template. -/

namespace BeanDoc.Template

theorem Variable.name_injective {v w : Variable} (h : v.name = w.name) : v = w := by
  cases v <;> cases w <;> first | rfl | exact absurd h (by decide)

theorem Slot.eq_of_reference_eq {s s' : Slot} (href : s.reference = s'.reference)
    (hafter : s.after = s'.after) : s = s' := by
  obtain ⟨target, quiet, braced, after⟩ := s
  obtain ⟨target', quiet', braced', after'⟩ := s'
  obtain ⟨hquiet, hbraced, hname⟩ := Reference.mk.inj href
  obtain rfl := Variable.name_injective (String.toList_injective hname)
  exact (Slot.mk.injEq ..).mpr ⟨rfl, hquiet, hbraced, hafter⟩

theorem append_cons_inj_of_not_mem {x : Char} {as bs cs ds : List Char} (ha : x ∉ as) (hb : x ∉ bs)
    (h : as ++ x :: cs = bs ++ x :: ds) : as = bs ∧ cs = ds := by
  induction as generalizing bs with
  | nil =>
    cases bs with
    | nil => exact ⟨rfl, (List.cons.inj h).2⟩
    | cons b bs => exact absurd ((List.cons.inj h).1 ▸ List.mem_cons_self) hb
  | cons a as ih =>
    cases bs with
    | nil => exact absurd ((List.cons.inj h).1 ▸ List.mem_cons_self) ha
    | cons b bs =>
      obtain ⟨rfl, htail⟩ := List.cons.inj h
      have hrest := ih (mt (List.mem_cons_of_mem a) ha) (mt (List.mem_cons_of_mem a) hb) htail
      exact ⟨congrArg (a :: ·) hrest.1, hrest.2⟩

theorem ne_append_source {cs before : List Char} (hcs : IsVerbatim cs) (s : Slot)
    (slots : List Slot) : cs ≠ before ++ (s :: slots).flatMap Slot.source := by
  rintro rfl
  apply hcs.noReference
  simp [Slot.source, Reference.spelling]

theorem alternates_unique {cs cs' : List Char} {slots slots' : List Slot}
    (h : Alternates cs slots) (h' : Alternates cs' slots')
    (hsource : cs ++ slots.flatMap Slot.source = cs' ++ slots'.flatMap Slot.source) :
    cs = cs' ∧ slots = slots' := by
  induction h generalizing cs' slots' with
  | @text cs hcs =>
    rw [List.flatMap_nil, List.append_nil] at hsource
    cases h' with
    | text _ => exact ⟨by simpa using hsource, rfl⟩
    | @slot _ s' slots' _ _ _ _ => exact absurd hsource (ne_append_source hcs s' slots')
  | @slot cs s slots hcs _ hend hrest ih =>
    cases h' with
    | text hcs' =>
      rw [List.flatMap_nil, List.append_nil] at hsource
      exact absurd hsource.symm (ne_append_source hcs' s slots)
    | @slot _ s' slots' hcs' _ hend' hrest' =>
      rw [List.flatMap_cons, List.flatMap_cons, Slot.source, Slot.source, List.append_assoc,
        List.append_assoc] at hsource
      obtain ⟨rfl, hmarks⟩ :=
        append_cons_inj_of_not_mem hcs.noReference hcs'.noReference hsource
      -- both sides go on with the spelling of a reference, so they are read alike
      have hread := read?_slot hend slots
      have hread' := read?_slot hend' slots'
      have hspelled : s.reference.spelling ++ (s.after ++ slots.flatMap Slot.source) =
          s'.reference.spelling ++ (s'.after ++ slots'.flatMap Slot.source) :=
        congrArg ('$' :: ·) hmarks
      rw [hspelled, hread'] at hread
      obtain ⟨href, hbehind⟩ := Prod.mk.inj (Option.some.inj hread)
      obtain ⟨hafter, rfl⟩ := ih hrest' hbehind.symm
      exact ⟨rfl, by rw [Slot.eq_of_reference_eq href.symm hafter]⟩

theorem ReferenceTemplate.source_injective {t u : ReferenceTemplate} (h : u.source = t.source) :
    u = t := by
  obtain ⟨lead, slots, halternates⟩ := t
  obtain ⟨lead', slots', halternates'⟩ := u
  obtain ⟨rfl, rfl⟩ := alternates_unique halternates' halternates (String.ofList_injective h)
  rfl

section
variable {n : Nat} {as bs : List Char}

theorem newlines_suffix_of_append (has : as.getLast? ≠ some '\n')
    (h : List.replicate n '\n' <:+ as ++ bs) : List.replicate n '\n' <:+ bs := by
  rcases List.suffix_or_suffix_of_suffix h (List.suffix_append as bs) with hbs | ⟨more, hmore⟩
  · exact hbs
  · rw [← hmore] at h ⊢
    have hlast : more <:+ as := List.suffix_append_self_iff.1 h
    have hnewline : ∀ d ∈ more, d = '\n' := fun d hd =>
      List.eq_of_mem_replicate (hmore ▸ List.mem_append_left bs hd)
    rcases List.eq_nil_or_concat more with rfl | ⟨front, d, rfl⟩
    · exact List.suffix_rfl
    · obtain rfl := hnewline d (by simp)
      obtain ⟨before, rfl⟩ := hlast
      simp at has

theorem getLast?_spelling_ne (cs : List Char) (s : Slot) :
    (cs ++ s.reference.spelling).getLast? ≠ some '\n' := by
  have hne : s.reference.spelling ≠ [] :=
    List.ne_nil_of_length_pos s.reference.spelling_length_pos
  have hnone : '\n' ∉ s.reference.spelling :=
    s.target.name_isDottedPath.not_mem_spelling (by decide)
      (by simp [Reference.IsPathChar, Reference.isNameChar])
  rw [List.getLast?_append_of_ne_nil cs hne]
  exact fun hlast => hnone (List.mem_of_getLast? hlast)

theorem newlines_suffix_filled (c : Context) (slots : List Slot)
    (h : List.replicate n '\n' <:+ as ++ slots.flatMap Slot.source) :
    List.replicate n '\n' <:+ as ++ slots.flatMap (Slot.filled c) := by
  induction slots generalizing as with
  | nil => exact h
  | cons s slots ih =>
    have hsource : as ++ (s :: slots).flatMap Slot.source =
        as ++ s.reference.spelling ++ (s.after ++ slots.flatMap Slot.source) := by
      simp [Slot.source]
    rw [hsource] at h
    have hafter := ih (newlines_suffix_of_append (getLast?_spelling_ne as s) h)
    refine hafter.trans ⟨as ++ ((s.target.value? c).getD "").toList, ?_⟩
    simp [Slot.filled]

end

/-- A template of plain text and references is rendered to its text with the value of each variable
in the place of its references, or nothing where there is no value. There is one way only to tell
its text from its references, and as many newlines as it ends with end the result. -/
theorem render_substitutes (t : ReferenceTemplate) (c : Context) :
    render t.source c = .ok (t.filled c) ∧ (∀ u : ReferenceTemplate, u.source = t.source → u = t) ∧
      ∀ n, List.replicate n '\n' <:+ t.source.toList →
        List.replicate n '\n' <:+ (t.filled c).toList := by
  refine ⟨render_source t c, fun u hu => ReferenceTemplate.source_injective hu, fun n hn => ?_⟩
  rw [ReferenceTemplate.source, String.toList_ofList] at hn
  rw [ReferenceTemplate.filled, String.toList_ofList]
  exact newlines_suffix_filled c t.slots hn

-- a value that looks like a template is not looked at again
example : render "$!\x7bfield\x7d\x7d <$class_name>\n\n"
    { field := none, className := "$field \x7b\x7b project_name \x7d\x7d & \\$field" } =
      .ok "\x7d <$field \x7b\x7b project_name \x7d\x7d & \\$field>\n\n" := by
  decide +kernel

end BeanDoc.Template
