import BeanDoc.Proofs.ReferencePaths

/-! References at the positions of a text. A path is read as far as it goes, so the one that is read
is the longest; a reference takes up the characters of its spelling and no others. -/

namespace BeanDoc.Template.Reference

structure IsLongestPath (path cs : List Char) : Prop where
  dotted : IsDottedPath path
  starts : path <+: cs
  longest : ∀ other, IsDottedPath other → other <+: cs → other.length ≤ path.length

section
variable {cs name path extra rest tail : List Char}

theorem IsIdentifier.append_char (h : IsIdentifier name) {c : Char} (hc : isNameChar c = true) :
    IsIdentifier (name ++ [c]) := by
  cases name with
  | nil => exact h.elim
  | cons d ds =>
    refine ⟨h.1, fun e he => ?_⟩
    rcases List.mem_append.1 he with he | he
    · exact h.2 e he
    · exact List.mem_singleton.1 he ▸ hc

theorem IsDottedPath.append_char (h : IsDottedPath path) {c : Char} (hc : isNameChar c = true) :
    IsDottedPath (path ++ [c]) := by
  induction h with
  | single hname => exact .single (hname.append_char hc)
  | dotted hname _ ih =>
    rw [List.append_assoc]
    exact .dotted hname ih

theorem IsDottedPath.append_dot (h : IsDottedPath path) (hname : IsIdentifier name) :
    IsDottedPath (path ++ '.' :: name) := by
  induction h with
  | single hfirst => exact .dotted hfirst (.single hname)
  | dotted hfirst _ ih =>
    rw [List.append_assoc]
    exact .dotted hfirst ih

theorem exists_longer_of_continues (hpath : IsDottedPath path) (h : continuesPath rest = true) :
    ∃ extra, extra ≠ [] ∧ extra <+: rest ∧ IsDottedPath (path ++ extra) := by
  cases rest with
  | nil => cases h
  | cons c rest =>
    rcases Bool.or_eq_true_iff.1 h with hc | hdot
    · exact ⟨[c], List.cons_ne_nil c [], by simp, hpath.append_char hc⟩
    · obtain ⟨hc, hletter⟩ := Bool.and_eq_true_iff.1 hdot
      obtain rfl := beq_iff_eq.1 hc
      obtain ⟨d, hd, halpha⟩ := (Option.any_eq_true _ _).1 hletter
      obtain ⟨more, rfl⟩ := List.head?_eq_some_iff.1 hd
      have hname : IsIdentifier [d] := ⟨halpha, List.forall_mem_nil _⟩
      exact ⟨['.', d], List.cons_ne_nil _ _, by simp, hpath.append_dot hname⟩

/-- Where the text does not go on with a path, no longer path begins in the same way: reading it
would give both. -/
theorem continuesPath_of_longer (hpath : IsDottedPath path) (hlonger : IsDottedPath (path ++ extra))
    (hne : extra ≠ []) : continuesPath extra = true := by
  by_contra hstop
  have hshort : path? (path ++ extra) = some (path, extra) :=
    path?_eq_some_iff.2 ⟨rfl, hpath, by simpa using hstop⟩
  have hlong : path? (path ++ extra) = some (path ++ extra, []) :=
    path?_eq_some_iff.2 ⟨(List.append_nil _).symm, hlonger, rfl⟩
  rw [hshort] at hlong
  exact hne (congrArg Prod.snd (Option.some.inj hlong))

theorem continuesPath_of_isPrefix (h : extra <+: rest) (hc : continuesPath extra = true) :
    continuesPath rest = true := by
  obtain ⟨more, rfl⟩ := h
  rcases extra with _ | ⟨c, _ | ⟨d, extra⟩⟩
  · cases hc
  · have hname : isNameChar c = true := by simpa [continuesPath] using hc
    simp [continuesPath, hname]
  · exact hc

theorem isLongestPath_append_iff :
    IsLongestPath path (path ++ rest) ↔ IsDottedPath path ∧ continuesPath rest = false := by
  constructor
  · intro h
    refine ⟨h.dotted, ?_⟩
    by_contra hcontinues
    obtain ⟨extra, hne, hstarts, hlonger⟩ :=
      exists_longer_of_continues h.dotted (by simpa using hcontinues)
    have hlength := h.longest _ hlonger ((List.prefix_append_right_inj path).2 hstarts)
    rw [List.length_append] at hlength
    have hpos := List.length_pos_iff.2 hne
    omega
  · rintro ⟨hpath, hstop⟩
    refine ⟨hpath, List.prefix_append path rest, fun other hother hstarts => ?_⟩
    by_contra hlength
    -- the two paths start the same text, so the longer one is the shorter one and something more
    obtain ⟨extra, rfl⟩ : path <+: other :=
      List.prefix_of_prefix_length_le (List.prefix_append path rest) hstarts (by omega)
    have hne : extra ≠ [] := by
      rintro rfl
      simp at hlength
    have hcontinues := continuesPath_of_isPrefix ((List.prefix_append_right_inj path).1 hstarts)
      (continuesPath_of_longer hpath hother hne)
    rw [hstop] at hcontinues
    cases hcontinues

theorem path?_eq_some_iff_isLongestPath :
    path? cs = some (path, rest) ↔ cs = path ++ rest ∧ IsLongestPath path cs := by
  rw [path?_eq_some_iff]
  constructor
  · rintro ⟨rfl, h⟩
    exact ⟨rfl, isLongestPath_append_iff.2 h⟩
  · rintro ⟨rfl, h⟩
    exact ⟨rfl, isLongestPath_append_iff.1 h⟩

end

def opening (quiet braced : Bool) : List Char :=
  ['$'] ++ (if quiet then ['!'] else []) ++ (if braced then ['{'] else [])

def closing (braced : Bool) : List Char :=
  if braced then ['}'] else []

theorem spelling_eq (r : Reference) :
    r.spelling = opening r.quiet r.braced ++ (r.path ++ closing r.braced) := by
  obtain ⟨quiet, braced, path⟩ := r
  cases braced <;> simp [spelling, opening, closing]

section
variable {cs path rest tail : List Char} {r : Reference} {quiet braced : Bool} {start stop : Nat}

theorem continuesPath_closing_append : continuesPath (closing braced ++ rest) = false ↔
    braced = true ∨ continuesPath rest = false := by
  cases braced with
  | true => exact iff_of_true rfl (.inl rfl)
  | false => simp [closing]

theorem read?_eq_some_iff_isLongestPath : read? cs = some (r, rest) ↔
    cs = r.spelling ++ rest ∧ IsLongestPath r.path (cs.drop (opening r.quiet r.braced).length) := by
  rw [read?_eq_some_iff]
  refine and_congr_right fun hcs => ?_
  have hdrop : cs.drop (opening r.quiet r.braced).length =
      r.path ++ (closing r.braced ++ rest) := by
    rw [hcs, spelling_eq, List.append_assoc, List.drop_left, List.append_assoc]
  rw [hdrop, isLongestPath_append_iff, continuesPath_closing_append]

def at? (cs : List Char) (start : Nat) : Option (List Char × Nat) :=
  (read? (cs.drop start)).map fun (r, rest) => (r.path, cs.length - rest.length)

theorem lt_of_extract_eq_spelling (h : cs.extract start stop = r.spelling) : start < stop := by
  have hlength := congrArg List.length h
  have hpos := spelling_length_pos r
  rw [List.extract_eq_take_drop, List.length_take] at hlength
  omega

theorem exists_drop_eq_spelling_append_iff :
    (∃ rest, cs.drop start = r.spelling ++ rest ∧ cs.length - rest.length = stop) ↔
      stop ≤ cs.length ∧ cs.extract start stop = r.spelling := by
  constructor
  · rintro ⟨rest, hdrop, rfl⟩
    have hlength := congrArg List.length hdrop
    have hpos := spelling_length_pos r
    rw [List.length_drop, List.length_append] at hlength
    have hspan : cs.length - rest.length - start = r.spelling.length := by omega
    refine ⟨Nat.sub_le _ _, ?_⟩
    rw [List.extract_eq_take_drop, hspan, hdrop, List.take_left]
  · rintro ⟨hstop, hspelled⟩
    have hlt := lt_of_extract_eq_spelling hspelled
    have hend : start + (stop - start) = stop := by omega
    refine ⟨cs.drop stop, ?_, ?_⟩
    · rw [← hspelled, List.extract_eq_take_drop, ← hend, ← List.drop_drop, hend,
        List.take_append_drop]
    · rw [List.length_drop]
      omega

theorem at?_eq_some_iff : at? cs start = some (path, stop) ↔
    stop ≤ cs.length ∧ ∃ quiet braced, cs.extract start stop = spelling ⟨quiet, braced, path⟩ ∧
      IsLongestPath path (cs.drop (start + (opening quiet braced).length)) := by
  have hread : at? cs start = some (path, stop) ↔ ∃ quiet braced rest,
      read? (cs.drop start) = some (⟨quiet, braced, path⟩, rest) ∧
        cs.length - rest.length = stop := by
    rw [at?, Option.map_eq_some_iff]
    constructor
    · rintro ⟨⟨⟨quiet, braced, path⟩, rest⟩, hread, heq⟩
      cases heq
      exact ⟨quiet, braced, rest, hread, rfl⟩
    · rintro ⟨quiet, braced, rest, hread, rfl⟩
      exact ⟨_, hread, rfl⟩
  rw [hread]
  constructor
  · rintro ⟨quiet, braced, rest, hread, hstop⟩
    obtain ⟨hdrop, hlongest⟩ := read?_eq_some_iff_isLongestPath.1 hread
    obtain ⟨hle, hspelled⟩ := exists_drop_eq_spelling_append_iff.1 ⟨rest, hdrop, hstop⟩
    rw [List.drop_drop] at hlongest
    exact ⟨hle, quiet, braced, hspelled, hlongest⟩
  · rintro ⟨hle, quiet, braced, hspelled, hlongest⟩
    obtain ⟨rest, hdrop, hstop⟩ := exists_drop_eq_spelling_append_iff.2 ⟨hle, hspelled⟩
    rw [← List.drop_drop] at hlongest
    exact ⟨quiet, braced, rest, read?_eq_some_iff_isLongestPath.2 ⟨hdrop, hlongest⟩, hstop⟩

theorem continuesPath_dot (h : ∀ c ∈ rest.head?, c.isAlpha = false) :
    continuesPath ('.' :: rest) = false := by
  rw [continuesPath_eq_false_iff]
  refine ⟨not_isNameChar_dot, ?_⟩
  rintro c more heq
  apply h
  rw [(List.cons.inj heq).2]
  rfl

theorem at?_of_drop_eq (hpath : IsDottedPath r.path)
    (hend : r.braced = true ∨ continuesPath rest = false)
    (hdrop : cs.drop start = r.spelling ++ rest) :
    at? cs start = some (r.path, start + r.spelling.length) := by
  have hlength := congrArg List.length hdrop
  have hpos := spelling_length_pos r
  rw [List.length_drop, List.length_append] at hlength
  have hstop : cs.length - rest.length = start + r.spelling.length := by omega
  rw [at?, hdrop, read?_spelling hpath hend, ← hstop]
  rfl

theorem read?_unclosed (hpath : IsLongestPath path tail)
    (hclose : (tail.drop path.length).head? ≠ some '}') :
    read? (opening quiet true ++ tail) = none := by
  obtain ⟨rest, rfl⟩ := hpath.starts
  rw [List.drop_left] at hclose
  have hread := path?_eq_some_iff_isLongestPath.2 ⟨rfl, hpath⟩
  have htarget : target? quiet ('{' :: (path ++ rest)) = none := by
    rw [target?, hread]
    split
    · next heq =>
      cases heq
      exact absurd rfl hclose
    · rfl
  cases quiet with
  | true => exact htarget
  | false =>
    rw [← htarget]
    rfl

end

/-- A reference at a position is read if and only if the characters up to the end are spelled as one
around the longest path that stands there, and the end is behind the start and within the text. A
dot that no letter follows is left behind, and braces are closed at once. -/
theorem at?_accepts_exactly (cs : List Char) (start : Nat) :
    (∀ path stop, at? cs start = some (path, stop) ↔
      stop ≤ cs.length ∧ ∃ quiet braced, cs.extract start stop = spelling ⟨quiet, braced, path⟩ ∧
        IsLongestPath path (cs.drop (start + (opening quiet braced).length))) ∧
    (∀ path stop, at? cs start = some (path, stop) → start < stop ∧ stop ≤ cs.length) ∧
    (∀ quiet path rest, IsDottedPath path → (∀ c ∈ rest.head?, c.isAlpha = false) →
      cs.drop start = spelling ⟨quiet, false, path⟩ ++ '.' :: rest →
        at? cs start = some (path, start + (spelling ⟨quiet, false, path⟩).length)) ∧
    (∀ quiet path tail, cs.drop start = opening quiet true ++ tail → IsLongestPath path tail →
      (tail.drop path.length).head? ≠ some '}' → at? cs start = none) := by
  refine ⟨fun path stop => at?_eq_some_iff, ?_, ?_, ?_⟩
  · intro path stop h
    obtain ⟨hle, quiet, braced, hspelled, -⟩ := at?_eq_some_iff.1 h
    exact ⟨lt_of_extract_eq_spelling hspelled, hle⟩
  · intro quiet path rest hpath hletter hdrop
    exact at?_of_drop_eq hpath (.inr (continuesPath_dot hletter)) hdrop
  · intro quiet path tail hdrop hpath hclose
    rw [at?, hdrop, read?_unclosed hpath hclose]
    rfl

end BeanDoc.Template.Reference
