import BeanDoc.Proofs.ReferencePaths
import BeanDoc.Template.Expansion

/-! The pieces a template falls into: what the scanner takes for the next piece, in plain text and
inside a block, and what the path of a reference is made of. -/

namespace BeanDoc.Template

namespace Reference

def IsPathChar (c : Char) : Prop :=
  isNameChar c = true ∨ c = '.'

theorem IsPathChar.ne_brace {c : Char} (h : IsPathChar c) : c ≠ '{' ∧ c ≠ '}' := by
  constructor <;> rintro rfl <;> simp [IsPathChar, isNameChar] at h

theorem IsPathChar.ne_closer {c : Char} (h : IsPathChar c) (b : Block) : c ≠ b.closer := by
  rintro rfl
  cases b <;> simp [IsPathChar, isNameChar, Block.closer] at h

theorem IsIdentifier.chars {name : List Char} (h : IsIdentifier name) :
    ∀ c ∈ name, IsPathChar c := by
  rcases name with _ | ⟨c, more⟩
  · exact h.elim
  · have hletter : isNameChar c = true := by simp [isNameChar, Char.isAlphanum, h.1]
    exact List.forall_mem_cons.2 ⟨.inl hletter, fun d hd => .inl (h.2 d hd)⟩

theorem IsDottedPath.chars {path : List Char} (h : IsDottedPath path) :
    ∀ c ∈ path, IsPathChar c := by
  induction h with
  | single hname => exact hname.chars
  | dotted hname _ ih =>
    exact List.forall_mem_append.2 ⟨hname.chars, List.forall_mem_cons.2 ⟨.inr rfl, ih⟩⟩

theorem IsDottedPath.not_mem_spelling {r : Reference} {x : Char} (h : IsDottedPath r.path)
    (hmark : x ∉ ['$', '!', '{', '}']) (hx : ¬ IsPathChar x) : x ∉ r.spelling := by
  have hpath : x ∉ r.path := fun hmem => hx (h.chars x hmem)
  simp only [List.mem_cons, List.not_mem_nil, or_false, not_or] at hmark
  cases hquiet : r.quiet <;> cases hbraced : r.braced <;>
    simp [spelling, hquiet, hbraced, hpath, hmark]

structure HasPath (r : Reference) : Prop where
  chars : ∀ c ∈ r.path, IsPathChar c
  head : ∃ c more, r.path = c :: more ∧ c.isAlpha = true

theorem read?_hasPath {cs rest : List Char} {r : Reference} (h : read? cs = some (r, rest)) :
    r.HasPath :=
  ⟨(read?_isDottedPath h).chars, (read?_isDottedPath h).head⟩

end Reference

/-- How a text falls into pieces, from a region on: one rule for each piece that the scanner can
find there, with what it has looked at before. -/
inductive Scanned : Region → List Char → List Piece → Prop
  | done (region : Region) : Scanned region [] []
  | opening {b : Block} {rest : List Char} {ps : List Piece} (h : Scanned (.inside b) rest ps) :
      Scanned .text ('{' :: b.opener :: rest) (.opening b :: ps)
  | reference {r : Reference} {rest : List Char} {ps : List Piece}
      (hread : Reference.read? (r.spelling ++ rest) = some (r, rest)) (h : Scanned .text rest ps) :
      Scanned .text (r.spelling ++ rest) (.reference .text r :: ps)
  | escaped {r : Reference} {rest : List Char} {ps : List Piece}
      (hread : Reference.read? (r.spelling ++ rest) = some (r, rest)) (h : Scanned .text rest ps) :
      Scanned .text ('\\' :: (r.spelling ++ rest)) (.escaped r :: ps)
  | plain {c : Char} {rest : List Char} {ps : List Piece}
      (hopen : Piece.opening? (c :: rest) = none) (hread : Reference.read? (c :: rest) = none)
      (hescape : c = '\\' → Reference.read? rest = none) (h : Scanned .text rest ps) :
      Scanned .text (c :: rest) (.plain c :: ps)
  | closing {b : Block} {rest : List Char} {ps : List Piece} (h : Scanned .text rest ps) :
      Scanned (.inside b) (b.closer :: '}' :: rest) (.closing b :: ps)
  | referenceInside {b : Block} {r : Reference} {rest : List Char} {ps : List Piece}
      (hcode : b ≠ .comment) (hread : Reference.read? (r.spelling ++ rest) = some (r, rest))
      (h : Scanned (.inside b) rest ps) :
      Scanned (.inside b) (r.spelling ++ rest) (.reference (.inside b) r :: ps)
  | plainInside {b : Block} {c : Char} {rest : List Char} {ps : List Piece}
      (hclose : Piece.closes b (c :: rest) = false)
      (hread : b = .comment ∨ Reference.read? (c :: rest) = none)
      (h : Scanned (.inside b) rest ps) :
      Scanned (.inside b) (c :: rest) (.plain c :: ps)

namespace Piece

theorem opening?_eq_some {cs : List Char} {b : Block} (h : opening? cs = some b) :
    ∃ rest, cs = '{' :: b.opener :: rest := by
  unfold opening? at h
  split at h
  · next c rest => exact ⟨rest, by rw [Block.opener_of_ofOpener? h]⟩
  · simp at h

theorem closes_eq_true {b : Block} {cs : List Char} (h : closes b cs = true) :
    ∃ rest, cs = b.closer :: '}' :: rest := by
  unfold closes at h
  split at h
  · next c rest => exact ⟨rest, by rw [eq_of_beq h]⟩
  · simp at h

end Piece

section
variable {b : Block} {c d : Char} {cs : List Char}

theorem opening?_of_ne (h : c ≠ '{') : Piece.opening? (c :: cs) = none := by
  unfold Piece.opening?
  split
  · next heq => exact absurd (List.cons.inj heq).1 h
  · rfl

theorem closes_of_ne (h : c ≠ b.closer) : Piece.closes b (c :: cs) = false := by
  unfold Piece.closes
  split
  · next heq => simpa [(List.cons.inj heq).1] using h
  · rfl

theorem closes_cons_cons : Piece.closes b (c :: d :: cs) = (c == b.closer && d == '}') := by
  by_cases hd : d = '}'
  · subst hd
    simp [Piece.closes]
  · have hfalse : Piece.closes b (c :: d :: cs) = false := by
      unfold Piece.closes
      split
      · next heq => exact absurd (List.cons.inj (List.cons.inj heq).2).1 hd
      · rfl
    simp [hfalse, hd]

theorem closes_of_head_ne (h : ∀ d ∈ cs.head?, d ≠ '}') : Piece.closes b (c :: cs) = false := by
  rcases cs with _ | ⟨d, cs⟩
  · rfl
  · simp [closes_cons_cons, h d rfl]

end

def OpensNone (rest : List Char) : List Char → Prop
  | [] => True
  | c :: cs => Piece.opening? (c :: (cs ++ rest)) = none ∧ OpensNone rest cs

section
variable {as bs cs rest : List Char} {r : Reference} {c : Char}

theorem opensNone_of_ne (h : ∀ c ∈ as, c ≠ '{') : OpensNone rest as := by
  induction as with
  | nil => trivial
  | cons c as ih =>
    exact ⟨opening?_of_ne (h c List.mem_cons_self), ih fun d hd => h d (List.mem_cons_of_mem c hd)⟩

theorem OpensNone.append (ha : OpensNone (bs ++ rest) as) (hb : OpensNone rest bs) :
    OpensNone rest (as ++ bs) := by
  induction as with
  | nil => exact hb
  | cons c as ih => exact ⟨by simpa using ha.1, ih ha.2⟩

theorem OpensNone.of_append (h : OpensNone rest (as ++ bs)) : OpensNone rest bs := by
  induction as with
  | nil => exact h
  | cons c as ih => exact ih h.2

theorem opening?_cons_append (h : ∀ b : Block, ¬ ['{', b.opener] <:+: c :: cs)
    (hrest : c = '{' → cs = [] → Piece.opening? ('{' :: rest) = none) :
    Piece.opening? (c :: (cs ++ rest)) = none := by
  by_cases hc : c = '{'
  · subst hc
    cases cs with
    | nil => exact hrest rfl rfl
    | cons d cs =>
      cases hd : Block.ofOpener? d with
      | none => exact hd
      | some b =>
        obtain rfl := Block.opener_of_ofOpener? hd
        exact absurd ⟨[], cs, rfl⟩ (h b)
  · exact opening?_of_ne hc

theorem opensNone_of_noBlock (h : ∀ b : Block, ¬ ['{', b.opener] <:+: cs)
    (hrest : Piece.opening? ('{' :: rest) = none) : OpensNone rest cs := by
  induction cs with
  | nil => trivial
  | cons c cs ih =>
    refine ⟨opening?_cons_append h fun _ _ => hrest, ih fun b hb => h b ?_⟩
    exact hb.trans (List.suffix_cons c cs).isInfix

theorem opening?_letter (h : c.isAlpha = true) : Piece.opening? ('{' :: c :: cs) = none := by
  show Block.ofOpener? c = none
  unfold Block.ofOpener?
  split
  · exact absurd h (by decide)
  · exact absurd h (by decide)
  · exact absurd h (by decide)
  · rfl

theorem opensNone_spelling (hr : r.HasPath) : OpensNone rest r.spelling := by
  obtain ⟨a, more, hpath, ha⟩ := hr.head
  have hmark : ∀ c ∈ '$' :: (if r.quiet then ['!'] else []), c ≠ '{' := by
    cases r.quiet <;> simp
  have hchars : ∀ c ∈ r.path, c ≠ '{' := fun c hc => (hr.chars c hc).ne_brace.1
  cases hbraced : r.braced with
  | false =>
    have hspelling : r.spelling = '$' :: (if r.quiet then ['!'] else []) ++ r.path := by
      simp [Reference.spelling, hbraced]
    rw [hspelling]
    exact (opensNone_of_ne hmark).append (opensNone_of_ne hchars)
  | true =>
    have hspelling : r.spelling =
        '$' :: (if r.quiet then ['!'] else []) ++ '{' :: (r.path ++ ['}']) := by
      simp [Reference.spelling, hbraced]
    have hinner : ∀ c ∈ r.path ++ ['}'], c ≠ '{' := by
      intro c hc
      rcases List.mem_append.1 hc with hc | hc
      · exact hchars c hc
      · rw [List.mem_singleton.1 hc]; decide
    have hbrace : Piece.opening? ('{' :: (r.path ++ ['}'] ++ rest)) = none := by
      rw [hpath]
      exact opening?_letter ha
    rw [hspelling]
    exact (opensNone_of_ne hmark).append ⟨hbrace, opensNone_of_ne hinner⟩

end

theorem first_plain {c : Char} {cs : List Char} (hopen : Piece.opening? (c :: cs) = none)
    (hread : Reference.read? (c :: cs) = none) (hescape : c = '\\' → Reference.read? cs = none) :
    Piece.first .text c cs = .plain c := by
  by_cases hc : c = '\\'
  · simp [Piece.first, Piece.firstInText, hopen, hread, hescape hc]
  · simp [Piece.first, Piece.firstInText, hopen, hread, hc]

theorem first_plain_inside {b : Block} {c : Char} {cs : List Char}
    (hclose : Piece.closes b (c :: cs) = false)
    (hread : b = .comment ∨ Reference.read? (c :: cs) = none) :
    Piece.first (.inside b) c cs = .plain c := by
  rcases hread with rfl | hread
  · simp [Piece.first, Piece.firstInside, hclose]
  · simp [Piece.first, Piece.firstInside, hclose, hread]

theorem scan_eq_cons {region : Region} {p : Piece} {c : Char} {cs rest : List Char}
    (hfirst : Piece.first region c cs = p) (hrest : c :: cs = p.source ++ rest) :
    scan region (c :: cs) = p :: scan (p.regionAfter region) rest := by
  rw [scan, hfirst, hrest, List.drop_left]

theorem scanned_text {c : Char} {cs : List Char}
    (ih : ∀ region rest, rest.length ≤ cs.length → Scanned region rest (scan region rest)) :
    Scanned .text (c :: cs) (scan .text (c :: cs)) := by
  cases ho : Piece.opening? (c :: cs) with
  | some b =>
    obtain ⟨rest, hcs⟩ := Piece.opening?_eq_some ho
    have hfirst : Piece.first .text c cs = .opening b := by
      simp [Piece.first, Piece.firstInText, ho]
    rw [scan_eq_cons hfirst hcs, hcs]
    exact .opening (ih _ rest (by simp_all))
  | none =>
    cases hr : Reference.read? (c :: cs) with
    | some found =>
      obtain ⟨r, rest⟩ := found
      have hfirst : Piece.first .text c cs = .reference .text r := by
        simp [Piece.first, Piece.firstInText, ho, hr]
      have hcs := Reference.read?_append hr
      have hshort := Reference.read?_length_lt hr
      rw [scan_eq_cons hfirst hcs, hcs]
      exact .reference (hcs ▸ hr) (ih _ rest (Nat.le_of_lt_succ hshort))
    | none =>
      by_cases hescape : c = '\\' ∧ (Reference.read? cs).isSome
      · obtain ⟨rfl, hsome⟩ := hescape
        obtain ⟨⟨r, rest⟩, he⟩ := Option.isSome_iff_exists.1 hsome
        have hfirst : Piece.first .text '\\' cs = .escaped r := by
          simp [Piece.first, Piece.firstInText, ho, hr, he]
        have hcs := Reference.read?_append he
        have hshort := Reference.read?_length_lt he
        rw [scan_eq_cons hfirst (congrArg ('\\' :: ·) hcs), hcs]
        exact .escaped (hcs ▸ he) (ih _ rest hshort.le)
      · have hnone : c = '\\' → Reference.read? cs = none := by
          intro hc
          simpa [hc] using hescape
        rw [scan_eq_cons (first_plain ho hr hnone) rfl]
        exact .plain ho hr hnone (ih _ cs le_rfl)

theorem scanned_inside {b : Block} {c : Char} {cs : List Char}
    (ih : ∀ region rest, rest.length ≤ cs.length → Scanned region rest (scan region rest)) :
    Scanned (.inside b) (c :: cs) (scan (.inside b) (c :: cs)) := by
  cases hclose : Piece.closes b (c :: cs) with
  | true =>
    obtain ⟨rest, hcs⟩ := Piece.closes_eq_true hclose
    have hfirst : Piece.first (.inside b) c cs = .closing b := by
      simp [Piece.first, Piece.firstInside, hclose]
    rw [scan_eq_cons hfirst hcs, hcs]
    exact .closing (ih _ rest (by simp_all))
  | false =>
    by_cases hread : b = .comment ∨ Reference.read? (c :: cs) = none
    · rw [scan_eq_cons (first_plain_inside hclose hread) rfl]
      exact .plainInside hclose hread (ih _ cs le_rfl)
    · obtain ⟨hcode, hsome⟩ := not_or.1 hread
      obtain ⟨⟨r, rest⟩, hr⟩ := Option.ne_none_iff_exists'.1 hsome
      have hfirst : Piece.first (.inside b) c cs = .reference (.inside b) r := by
        simp [Piece.first, Piece.firstInside, hclose, hcode, hr]
      have hcs := Reference.read?_append hr
      have hshort := Reference.read?_length_lt hr
      rw [scan_eq_cons hfirst hcs, hcs]
      exact .referenceInside hcode (hcs ▸ hr) (ih _ rest (Nat.le_of_lt_succ hshort))

theorem scanned_scan (region : Region) (cs : List Char) : Scanned region cs (scan region cs) := by
  induction hn : cs.length using Nat.strong_induction_on generalizing region cs with
  | _ n ih =>
    cases cs with
    | nil => rw [scan]; exact .done region
    | cons c cs =>
      -- a piece is never empty, so what follows it is shorter, in whatever region
      have hshorter : ∀ region rest, rest.length ≤ cs.length →
          Scanned region rest (scan region rest) := by
        intro region rest hrest
        refine ih rest.length ?_ region rest rfl
        rw [← hn, List.length_cons]
        omega
      cases region with
      | text => exact scanned_text hshorter
      | inside b => exact scanned_inside hshorter

theorem scan_eq_of_scanned {region : Region} {cs : List Char} {ps : List Piece}
    (h : Scanned region cs ps) : scan region cs = ps := by
  induction h with
  | done region => rw [scan]
  | @opening b rest ps _ ih =>
    have hopen : Piece.opening? ('{' :: b.opener :: rest) = some b := by cases b <;> rfl
    have hfirst : Piece.first .text '{' (b.opener :: rest) = .opening b := by
      simp [Piece.first, Piece.firstInText, hopen]
    rw [scan_eq_cons hfirst rfl]
    exact congrArg _ ih
  | @reference r rest ps hread _ ih =>
    obtain ⟨more, hmore⟩ : ∃ more, r.spelling ++ rest = '$' :: more := ⟨_, rfl⟩
    have hfirst : Piece.first .text '$' more = .reference .text r := by
      rw [hmore] at hread
      simp [Piece.first, Piece.firstInText, opening?_of_ne, hread]
    rw [hmore, scan_eq_cons hfirst hmore.symm]
    exact congrArg _ ih
  | @escaped r rest ps hread _ ih =>
    have hfirst : Piece.first .text '\\' (r.spelling ++ rest) = .escaped r := by
      simp [Piece.first, Piece.firstInText, opening?_of_ne, Reference.read?_of_ne, hread]
    rw [scan_eq_cons hfirst rfl]
    exact congrArg _ ih
  | @plain c rest ps hopen hread hescape _ ih =>
    rw [scan_eq_cons (first_plain hopen hread hescape) rfl]
    exact congrArg _ ih
  | @closing b rest ps _ ih =>
    have hfirst : Piece.first (.inside b) b.closer ('}' :: rest) = .closing b := by
      simp [Piece.first, Piece.firstInside, closes_cons_cons]
    rw [scan_eq_cons hfirst rfl]
    exact congrArg _ ih
  | @referenceInside b r rest ps hcode hread _ ih =>
    obtain ⟨more, hmore⟩ : ∃ more, r.spelling ++ rest = '$' :: more := ⟨_, rfl⟩
    have hclose : Piece.closes b ('$' :: more) = false :=
      closes_of_ne (by cases b <;> decide)
    have hfirst : Piece.first (.inside b) '$' more = .reference (.inside b) r := by
      rw [hmore] at hread
      simp [Piece.first, Piece.firstInside, hclose, hcode, hread]
    rw [hmore, scan_eq_cons hfirst hmore.symm]
    exact congrArg _ ih
  | @plainInside b c rest ps hclose hread _ ih =>
    rw [scan_eq_cons (first_plain_inside hclose hread) rfl]
    exact congrArg _ ih

theorem scanned_plain_append {cs rest : List Char} {ps : List Piece} (hopen : OpensNone rest cs)
    (hreference : '$' ∉ cs) (hescape : '\\' ∉ cs) (h : Scanned .text rest ps) :
    Scanned .text (cs ++ rest) (cs.map .plain ++ ps) := by
  induction cs with
  | nil => exact h
  | cons c cs ih =>
    simp only [List.mem_cons, not_or] at hreference hescape
    exact .plain hopen.1 (Reference.read?_of_ne (Ne.symm hreference.1))
      (fun hc => absurd hc.symm hescape.1) (ih hopen.2 hreference.2 hescape.2)

theorem expanded_map_plain (cs : List Char) : (cs.map Piece.plain).flatMap Piece.expanded = cs := by
  simp [List.flatMap_map, Piece.expanded]

end BeanDoc.Template
