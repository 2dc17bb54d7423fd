import BeanDoc.Template.Reference
import Mathlib.Data.List.TakeWhile

/-! Dotted paths. A path is read up to the place where the text does not go on with it, and so a
reference is read as it is written whenever its path ends there. -/

namespace BeanDoc.Template

def continuesPath : List Char → Bool
  | [] => false
  | c :: cs => Reference.isNameChar c || (c == '.' && cs.head?.any Char.isAlpha)

theorem continuesPath_eq_false_iff {rest : List Char} : continuesPath rest = false ↔
    (∀ c ∈ rest.head?, Reference.isNameChar c = false) ∧
      ∀ c more, rest = '.' :: c :: more → c.isAlpha = false := by
  rcases rest with _ | ⟨c, _ | ⟨d, rest⟩⟩ <;> simp [continuesPath]

namespace Reference

def IsIdentifier : List Char → Prop
  | [] => False
  | c :: cs => c.isAlpha = true ∧ ∀ d ∈ cs, isNameChar d = true

inductive IsDottedPath : List Char → Prop
  | single {name : List Char} (hname : IsIdentifier name) : IsDottedPath name
  | dotted {name path : List Char} (hname : IsIdentifier name) (hpath : IsDottedPath path) :
      IsDottedPath (name ++ '.' :: path)

section
variable {cs name path rest : List Char}

theorem identifier?_eq_some_iff : identifier? cs = some (name, rest) ↔
    cs = name ++ rest ∧ IsIdentifier name ∧ ∀ c ∈ rest.head?, isNameChar c = false := by
  constructor
  · intro h
    refine ⟨identifier?_append h, ?_⟩
    rcases cs with _ | ⟨c, cs⟩
    · simp [identifier?] at h
    · by_cases hc : c.isAlpha = true
      · obtain ⟨rfl, rfl⟩ :
            c :: cs.takeWhile isNameChar = name ∧ cs.dropWhile isNameChar = rest := by
          simpa [identifier?, hc] using h
        refine ⟨⟨hc, fun d hd => List.mem_takeWhile_imp hd⟩, fun d hd => ?_⟩
        have hhead := List.head?_dropWhile_not isNameChar cs
        rw [Option.mem_def.1 hd] at hhead
        simpa using hhead
      · simp [identifier?, hc] at h
  · rintro ⟨rfl, hname, hrest⟩
    rcases name with _ | ⟨c, more⟩
    · exact hname.elim
    · have hstop : rest.takeWhile isNameChar = [] ∧ rest.dropWhile isNameChar = rest := by
        rcases rest with _ | ⟨d, rest⟩
        · exact ⟨rfl, rfl⟩
        · simp [hrest d rfl]
      rw [List.cons_append, identifier?, if_pos hname.1, List.takeWhile_append_of_pos hname.2,
        List.dropWhile_append_of_pos hname.2, hstop.1, hstop.2, List.append_nil]

theorem segments_of_identifier (h : identifier? cs = some (name, rest)) :
    segments ('.' :: cs) = ('.' :: name ++ (segments rest).1, (segments rest).2) := by
  rw [segments]
  split
  · next heq =>
    obtain ⟨rfl, rfl⟩ : name = _ ∧ rest = _ := by simpa [h] using heq
    rfl
  · next heq => rw [h] at heq; cases heq

theorem segments_of_not_continues (h : continuesPath rest = false) :
    segments rest = ([], rest) := by
  obtain ⟨-, hdot⟩ := continuesPath_eq_false_iff.1 h
  rw [segments.eq_def]
  split
  · next after =>
    have hnone : identifier? after = none := by
      rcases after with _ | ⟨c, more⟩
      · rfl
      · simp [identifier?, hdot c more rfl]
    split
    · next heq => rw [hnone] at heq; cases heq
    · rfl
  · rfl

theorem not_isNameChar_dot : ∀ c ∈ ('.' :: cs).head?, isNameChar c = false := by
  rintro c ⟨⟩
  decide

theorem segments_dotted (hpath : IsDottedPath path) (hrest : continuesPath rest = false) :
    segments ('.' :: (path ++ rest)) = ('.' :: path, rest) := by
  induction hpath with
  | @single name hname =>
    have hname : identifier? (name ++ rest) = some (name, rest) :=
      identifier?_eq_some_iff.2 ⟨rfl, hname, (continuesPath_eq_false_iff.1 hrest).1⟩
    rw [segments_of_identifier hname, segments_of_not_continues hrest, List.append_nil]
  | @dotted name path hname _ ih =>
    have hname : identifier? (name ++ '.' :: (path ++ rest)) = some (name, '.' :: (path ++ rest)) :=
      identifier?_eq_some_iff.2 ⟨rfl, hname, not_isNameChar_dot⟩
    rw [List.append_assoc, List.cons_append, segments_of_identifier hname, ih]
    simp

/-- What stands behind the names is no name character, and no dot with a letter behind it. -/
theorem segments_spec (hname : IsIdentifier name)
    (hrest : ∀ c ∈ rest.head?, isNameChar c = false) :
    IsDottedPath (name ++ (segments rest).1) ∧ continuesPath (segments rest).2 = false := by
  fun_induction segments rest generalizing name with
  | case1 after next tail h more rest hs ih =>
    obtain ⟨-, hnext, htail⟩ := identifier?_eq_some_iff.1 h
    rw [hs] at ih
    obtain ⟨hpath, hend⟩ := ih hnext htail
    exact ⟨by simpa using IsDottedPath.dotted hname hpath, hend⟩
  | case2 after h =>
    refine ⟨by simpa using IsDottedPath.single hname, continuesPath_eq_false_iff.2 ⟨hrest, ?_⟩⟩
    rintro c more heq
    obtain rfl := (List.cons.inj heq).2
    by_contra hc
    simp [identifier?, hc] at h
  | case3 rest hdot =>
    refine ⟨by simpa using IsDottedPath.single hname, continuesPath_eq_false_iff.2 ⟨hrest, ?_⟩⟩
    rintro c more rfl
    exact absurd rfl (hdot (c :: more))

theorem path?_eq_some_iff : path? cs = some (path, rest) ↔
    cs = path ++ rest ∧ IsDottedPath path ∧ continuesPath rest = false := by
  constructor
  · intro h
    refine ⟨path?_append h, ?_⟩
    unfold path? at h
    split at h
    · cases h
    · next name tail hname =>
      obtain ⟨-, hidentifier, htail⟩ := identifier?_eq_some_iff.1 hname
      obtain ⟨rfl, rfl⟩ := by simpa using h
      exact segments_spec hidentifier htail
  · rintro ⟨rfl, hpath, hrest⟩
    rw [path?]
    cases hpath with
    | single hname =>
      have hstop := (continuesPath_eq_false_iff.1 hrest).1
      rw [identifier?_eq_some_iff.2 ⟨rfl, hname, hstop⟩]
      simp [segments_of_not_continues hrest]
    | @dotted name path hname hpath =>
      rw [List.append_assoc, List.cons_append,
        identifier?_eq_some_iff.2 ⟨rfl, hname, not_isNameChar_dot⟩]
      simp [segments_dotted hpath hrest]

instance : DecidablePred IsDottedPath := fun path =>
  decidable_of_iff (path? path = some (path, [])) (by simp [path?_eq_some_iff, continuesPath])

theorem IsDottedPath.head (h : IsDottedPath path) :
    ∃ c more, path = c :: more ∧ c.isAlpha = true := by
  cases h with
  | @single name hname =>
    rcases path with _ | ⟨c, more⟩
    · exact hname.elim
    · exact ⟨c, more, rfl, hname.1⟩
  | @dotted name path hname _ =>
    rcases name with _ | ⟨c, more⟩
    · exact hname.elim
    · exact ⟨c, _, rfl, hname.1⟩

theorem target?_eq_some {quiet : Bool} {r : Reference} (h : target? quiet cs = some (r, rest)) :
    IsDottedPath r.path ∧ (r.braced = true ∨ continuesPath rest = false) := by
  unfold target? at h
  split at h
  · split at h
    · next path rest' hpath =>
      obtain ⟨rfl, -⟩ := by simpa using h
      exact ⟨(path?_eq_some_iff.1 hpath).2.1, .inl rfl⟩
    · cases h
  · obtain ⟨⟨path, tail⟩, hpath, hr⟩ := Option.map_eq_some_iff.1 h
    obtain ⟨rfl, rfl⟩ := by simpa using hr
    obtain ⟨-, hdotted, hend⟩ := path?_eq_some_iff.1 hpath
    exact ⟨hdotted, .inr hend⟩

theorem read?_of_ne {c : Char} (h : c ≠ '$') : read? (c :: cs) = none := by
  unfold read?
  split <;> simp_all

theorem read?_spelling {r : Reference} (hpath : IsDottedPath r.path)
    (hend : r.braced = true ∨ continuesPath rest = false) :
    read? (r.spelling ++ rest) = some (r, rest) := by
  obtain ⟨quiet, braced, path⟩ := r
  obtain ⟨c, more, rfl, hc⟩ := hpath.head
  have hquiet : c ≠ '!' := by rintro rfl; cases hc
  have hbrace : c ≠ '{' := by rintro rfl; cases hc
  cases braced with
  | true =>
    have htarget : path? (c :: more ++ '}' :: rest) = some (c :: more, '}' :: rest) :=
      path?_eq_some_iff.2 ⟨rfl, hpath, rfl⟩
    rw [List.cons_append] at htarget
    cases quiet <;> simp [spelling, read?, target?, htarget]
  | false =>
    have htarget : path? (c :: more ++ rest) = some (c :: more, rest) :=
      path?_eq_some_iff.2 ⟨rfl, hpath, hend.resolve_left (by simp)⟩
    rw [List.cons_append] at htarget
    cases quiet <;> simp [spelling, read?, target?, htarget, hquiet, hbrace]

/-- What is read at the start of a text: a spelling with a dotted path, which the text behind an
unbraced one does not go on with. -/
theorem read?_eq_some_iff {r : Reference} : read? cs = some (r, rest) ↔
    cs = r.spelling ++ rest ∧ IsDottedPath r.path ∧
      (r.braced = true ∨ continuesPath rest = false) := by
  constructor
  · intro h
    refine ⟨read?_append h, ?_⟩
    unfold read? at h
    split at h
    · exact target?_eq_some h
    · exact target?_eq_some h
    · cases h
  · rintro ⟨rfl, hpath, hend⟩
    exact read?_spelling hpath hend

theorem read?_isDottedPath {r : Reference} (h : read? cs = some (r, rest)) :
    IsDottedPath r.path :=
  (read?_eq_some_iff.1 h).2.1

end

end Reference

end BeanDoc.Template
