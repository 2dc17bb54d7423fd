import BeanDoc.Proofs.TemplatePieces
import Mathlib.Data.List.Infix

/-! The blocks of an expanded template. Reading the expansion again by its delimiters alone gives
the blocks of the template and one block for each reference in plain text, as long as no such
reference stands directly behind a `{`. -/

namespace BeanDoc.Template

/-- What delimiters make of a text: characters outside of blocks, and blocks with all that they
contain. The last block may be left open. -/
inductive Segment where
  | text (c : Char)
  | block (b : Block) (contents : List Char) (closed : Bool)
  deriving DecidableEq, Repr

def Segment.source : Segment → List Char
  | text c => [c]
  | block b contents closed =>
    ['{', b.opener] ++ contents ++ if closed then [b.closer, '}'] else []

/-- Cuts a text at its delimiters, by the rules of the scanner and without regard to references.
`seen` is what the open block has so far. -/
def cutBlocks (region : Region) (seen cs : List Char) : List Segment :=
  match region, cs with
  | .text, [] => []
  | .inside b, [] => [.block b seen false]
  | .text, c :: cs =>
    match Piece.opening? (c :: cs) with
    | some b => cutBlocks (.inside b) [] cs.tail
    | none => .text c :: cutBlocks .text [] cs
  | .inside b, c :: cs =>
    if Piece.closes b (c :: cs) then .block b seen true :: cutBlocks .text [] cs.tail
    else cutBlocks (.inside b) (seen ++ [c]) cs
termination_by cs.length
decreasing_by all_goals simp; try omega

/-- The segments that the pieces of a template stand for: a block for each reference in plain text
and for each block of the template, with the references in it replaced, and everything else
outside of blocks. -/
def outline : Region → (seen : List Char) → List Piece → List Segment
  | .text, _, [] => []
  | .inside b, seen, [] => [.block b seen false]
  | .text, _, .opening b :: ps => outline (.inside b) [] ps
  | .text, _, .reference .text r :: ps =>
    .block .output (' ' :: r.path ++ [' ']) true :: outline .text [] ps
  | .text, _, p :: ps => p.expanded.map .text ++ outline .text [] ps
  | .inside b, seen, .closing _ :: ps => .block b seen true :: outline .text [] ps
  | .inside b, seen, p :: ps => outline (.inside b) (seen ++ p.expanded) ps

def expansion (ps : List Piece) : List Char :=
  ps.flatMap Piece.expanded

section
variable {seen cs rest : List Char} {b : Block} {r : Reference} {c : Char}

theorem cutBlocks_text_cons (h : Piece.opening? (c :: cs) = none) :
    cutBlocks .text seen (c :: cs) = .text c :: cutBlocks .text [] cs := by
  rw [cutBlocks, h]

theorem cutBlocks_opening :
    cutBlocks .text seen ('{' :: b.opener :: cs) = cutBlocks (.inside b) [] cs := by
  have h : Piece.opening? ('{' :: b.opener :: cs) = some b := by cases b <;> rfl
  rw [cutBlocks, h]
  rfl

theorem cutBlocks_closing :
    cutBlocks (.inside b) seen (b.closer :: '}' :: cs) =
      .block b seen true :: cutBlocks .text [] cs := by
  have h : Piece.closes b (b.closer :: '}' :: cs) = true := by simp [Piece.closes]
  rw [cutBlocks, if_pos h]
  rfl

theorem cutBlocks_inside_cons (h : Piece.closes b (c :: cs) = false) :
    cutBlocks (.inside b) seen (c :: cs) = cutBlocks (.inside b) (seen ++ [c]) cs := by
  rw [cutBlocks, if_neg (by simp [h])]

theorem cutBlocks_text_seen : cutBlocks .text seen cs = cutBlocks .text [] cs := by
  cases cs with
  | nil => rw [cutBlocks, cutBlocks]
  | cons c cs => rw [cutBlocks, cutBlocks]

theorem cutBlocks_text_append {as : List Char} (h : OpensNone rest as) :
    cutBlocks .text seen (as ++ rest) = as.map .text ++ cutBlocks .text [] rest := by
  induction as generalizing seen with
  | nil => exact cutBlocks_text_seen
  | cons c as ih =>
    rw [List.cons_append, cutBlocks_text_cons h.1, ih h.2]
    rfl

theorem cutBlocks_inside_append {as : List Char} (h : ∀ c ∈ as, c ≠ b.closer) :
    cutBlocks (.inside b) seen (as ++ rest) = cutBlocks (.inside b) (seen ++ as) rest := by
  induction as generalizing seen with
  | nil => rw [List.nil_append, List.append_nil]
  | cons c as ih =>
    rw [List.cons_append, cutBlocks_inside_cons (closes_of_ne (h c List.mem_cons_self)),
      ih fun d hd => h d (List.mem_cons_of_mem c hd), List.append_assoc, List.singleton_append]

theorem cutBlocks_output {contents : List Char} (h : ∀ c ∈ contents, c ≠ '}') :
    cutBlocks .text seen ('{' :: '{' :: (contents ++ '}' :: '}' :: rest)) =
      .block .output contents true :: cutBlocks .text [] rest :=
  calc cutBlocks .text seen ('{' :: '{' :: (contents ++ '}' :: '}' :: rest))
      = cutBlocks (.inside .output) [] (contents ++ '}' :: '}' :: rest) :=
        cutBlocks_opening (b := .output)
    _ = cutBlocks (.inside .output) contents ('}' :: '}' :: rest) := cutBlocks_inside_append h
    _ = .block .output contents true :: cutBlocks .text [] rest :=
        cutBlocks_closing (b := .output)

end

def Crowded (ps : List Piece) : Prop :=
  ∃ r, [.plain '{', .reference .text r] <:+: ps

theorem crowded_cons {p : Piece} {ps : List Piece} :
    Crowded (p :: ps) ↔ (p = .plain '{' ∧ ∃ r, ps.head? = some (.reference .text r)) ∨
      Crowded ps := by
  unfold Crowded
  simp only [List.infix_cons_iff, List.cons_prefix_cons, exists_or]
  refine or_congr ⟨?_, ?_⟩ Iff.rfl
  · rintro ⟨r, rfl, tail, rfl⟩
    exact ⟨rfl, r, rfl⟩
  · rintro ⟨rfl, r, hr⟩
    obtain ⟨tail, rfl⟩ := List.head?_eq_some_iff.1 hr
    exact ⟨r, rfl, tail, rfl⟩

theorem crowded_cons_of_ne {p : Piece} {ps : List Piece} (h : p ≠ .plain '{') :
    Crowded (p :: ps) ↔ Crowded ps := by
  simp [crowded_cons, h]

/-- Segments that are as intended unless something is crowded; then there are fewer of them. -/
def Fuses (actual intended : List Segment) (crowded : Prop) : Prop :=
  (¬ crowded → actual = intended) ∧ (crowded → actual.length < intended.length)

namespace Fuses

variable {actual intended : List Segment} {crowded : Prop}

theorem append_left (h : Fuses actual intended crowded) (front : List Segment) :
    Fuses (front ++ actual) (front ++ intended) crowded := by
  refine ⟨fun hnot => by rw [h.1 hnot], fun hc => ?_⟩
  have hlt := h.2 hc
  simp only [List.length_append]
  omega

theorem of_iff {crowded' : Prop} (h : Fuses actual intended crowded) (hiff : crowded' ↔ crowded) :
    Fuses actual intended crowded' := by
  rwa [Fuses, hiff]

theorem length_le (h : Fuses actual intended crowded) : actual.length ≤ intended.length := by
  by_cases hc : crowded
  · exact (h.2 hc).le
  · rw [h.1 hc]

theorem eq_iff (h : Fuses actual intended crowded) : actual = intended ↔ ¬ crowded := by
  refine ⟨fun heq hc => ?_, h.1⟩
  have hlt := h.2 hc
  rw [heq] at hlt
  exact lt_irrefl _ hlt

end Fuses

/-- How the expansion of pieces is cut. Plain text may stand behind a `{` that is still to be
placed; it only matters if a reference comes first. -/
def CutsInto : Region → List Char → List Piece → Prop
  | .text, cs, ps =>
    Fuses (cutBlocks .text [] (expansion ps)) (outline .text [] ps) (Crowded ps) ∧
      (Piece.opening? ('{' :: cs) = none →
        Fuses (cutBlocks .text [] ('{' :: expansion ps)) (.text '{' :: outline .text [] ps)
          (Crowded (.plain '{' :: ps)))
  | .inside b, _, ps => ∀ seen,
    Fuses (cutBlocks (.inside b) seen (expansion ps)) (outline (.inside b) seen ps) (Crowded ps)

section
variable {cs rest : List Char} {ps : List Piece} {b : Block} {r : Reference} {c : Char}

theorem fuses_held
    (h : Fuses (cutBlocks .text [] (expansion ps)) (outline .text [] ps) (Crowded ps))
    (hopen : Piece.opening? ('{' :: expansion ps) = none)
    (hhead : ∀ r, ps.head? ≠ some (.reference .text r)) :
    Fuses (cutBlocks .text [] ('{' :: expansion ps)) (.text '{' :: outline .text [] ps)
      (Crowded (.plain '{' :: ps)) := by
  rw [cutBlocks_text_cons hopen]
  refine (h.append_left [.text '{']).of_iff ?_
  simp [crowded_cons, hhead]

theorem cutsInto_done (region : Region) : CutsInto region [] [] := by
  have hnot : ¬ Crowded [] := by simp [Crowded]
  cases region with
  | text =>
    have h : Fuses (cutBlocks .text [] (expansion [])) (outline .text [] []) (Crowded []) :=
      ⟨fun _ => by rw [expansion, List.flatMap_nil, cutBlocks, outline], fun hc => absurd hc hnot⟩
    exact ⟨h, fun _ => fuses_held h rfl (by simp)⟩
  | inside b =>
    exact fun seen =>
      ⟨fun _ => by rw [expansion, List.flatMap_nil, cutBlocks, outline], fun hc => absurd hc hnot⟩

theorem cutsInto_opening (ih : CutsInto (.inside b) rest ps) :
    CutsInto .text ('{' :: b.opener :: rest) (.opening b :: ps) := by
  have hopened : cutBlocks .text [] (expansion (.opening b :: ps)) =
      cutBlocks (.inside b) [] (expansion ps) := cutBlocks_opening
  refine ⟨?_, fun hopen => absurd hopen (by simp [Piece.opening?, Block.ofOpener?])⟩
  rw [hopened, outline]
  exact (ih []).of_iff (crowded_cons_of_ne (by simp))

theorem cutBlocks_reference (hr : r.HasPath) (held : List Char) (hheld : ∀ c ∈ held, c ≠ '}')
    (rest : List Char) :
    cutBlocks .text [] ('{' :: '{' :: (held ++ ' ' :: (r.path ++ [' ']) ++ '}' :: '}' :: rest)) =
      .block .output (held ++ ' ' :: (r.path ++ [' '])) true :: cutBlocks .text [] rest := by
  refine cutBlocks_output fun c hc => ?_
  simp only [List.mem_append, List.mem_cons, List.not_mem_nil, or_false] at hc
  rcases hc with hc | rfl | hc | rfl
  · exact hheld c hc
  · decide
  · exact (hr.chars c hc).ne_brace.2
  · decide

theorem cutsInto_reference (hr : r.HasPath) (ih : CutsInto .text rest ps) :
    CutsInto .text (r.spelling ++ rest) (.reference .text r :: ps) := by
  have hexpansion : expansion (.reference .text r :: ps) =
      '{' :: '{' :: (' ' :: (r.path ++ [' ']) ++ '}' :: '}' :: expansion ps) := by
    simp [expansion, Piece.expanded]
  have hintended : outline .text [] (.reference .text r :: ps) =
      [.block .output (' ' :: (r.path ++ [' '])) true] ++ outline .text [] ps := rfl
  refine ⟨?_, fun _ => ?_⟩
  · have hcut := cutBlocks_reference hr [] (by simp) (expansion ps)
    rw [List.nil_append] at hcut
    rw [hexpansion, hintended, hcut]
    exact (ih.1.append_left [_]).of_iff (crowded_cons_of_ne (by simp))
  · -- the brace in front and the first brace of the block open a block together
    have hcut := cutBlocks_reference hr ['{'] (by simp) (expansion ps)
    have hlength := ih.1.length_le
    have hcrowded : Crowded (.plain '{' :: .reference .text r :: ps) :=
      crowded_cons.2 (.inl ⟨rfl, r, rfl⟩)
    rw [hexpansion, hintended]
    refine ⟨fun hnot => absurd hcrowded hnot, fun _ => ?_⟩
    have hheld : '{' :: '{' :: '{' :: (' ' :: (r.path ++ [' ']) ++ '}' :: '}' :: expansion ps) =
        '{' :: '{' :: (['{'] ++ ' ' :: (r.path ++ [' ']) ++ '}' :: '}' :: expansion ps) := rfl
    rw [hheld, hcut]
    simp only [List.length_cons, List.length_append, List.length_nil]
    omega

theorem cutsInto_escaped (hr : r.HasPath) (ih : CutsInto .text rest ps) :
    CutsInto .text ('\\' :: (r.spelling ++ rest)) (.escaped r :: ps) := by
  have h : Fuses (cutBlocks .text [] (expansion (.escaped r :: ps)))
      (outline .text [] (.escaped r :: ps)) (Crowded (.escaped r :: ps)) := by
    have hcut : cutBlocks .text [] (expansion (.escaped r :: ps)) =
        r.spelling.map .text ++ cutBlocks .text [] (expansion ps) :=
      cutBlocks_text_append (opensNone_spelling hr)
    rw [hcut]
    exact (ih.1.append_left _).of_iff (crowded_cons_of_ne (by simp))
  exact ⟨h, fun _ => fuses_held h rfl (by simp)⟩

theorem cutsInto_plain (hopen : Piece.opening? (c :: rest) = none) (ih : CutsInto .text rest ps) :
    CutsInto .text (c :: rest) (.plain c :: ps) := by
  have hintended : outline .text [] (.plain c :: ps) = .text c :: outline .text [] ps := rfl
  have h : Fuses (cutBlocks .text [] (expansion (.plain c :: ps)))
      (outline .text [] (.plain c :: ps)) (Crowded (.plain c :: ps)) := by
    by_cases hc : c = '{'
    · -- the rest is to be read with this brace in front
      subst hc
      exact ih.2 hopen
    · have hcut : cutBlocks .text [] (expansion (.plain c :: ps)) =
          .text c :: cutBlocks .text [] (expansion ps) := cutBlocks_text_cons (opening?_of_ne hc)
      rw [hcut, hintended]
      exact (ih.1.append_left [.text c]).of_iff (crowded_cons_of_ne (by simpa using hc))
  exact ⟨h, fun hheld => fuses_held h hheld (by simp)⟩

theorem cutsInto_closing (ih : CutsInto .text rest ps) :
    CutsInto (.inside b) (b.closer :: '}' :: rest) (.closing b :: ps) := by
  intro seen
  have hclosed : cutBlocks (.inside b) seen (expansion (.closing b :: ps)) =
      .block b seen true :: cutBlocks .text [] (expansion ps) := cutBlocks_closing
  rw [hclosed, outline]
  exact (ih.1.append_left [_]).of_iff (crowded_cons_of_ne (by simp))

theorem cutsInto_referenceInside (hr : r.HasPath) (ih : CutsInto (.inside b) rest ps) :
    CutsInto (.inside b) (r.spelling ++ rest) (.reference (.inside b) r :: ps) := by
  intro seen
  have hcut : cutBlocks (.inside b) seen (expansion (.reference (.inside b) r :: ps)) =
      cutBlocks (.inside b) (seen ++ r.path) (expansion ps) :=
    cutBlocks_inside_append fun c hc => (hr.chars c hc).ne_closer b
  rw [hcut]
  exact (ih (seen ++ r.path)).of_iff (crowded_cons_of_ne (by simp))

/-- What follows a character inside a block is the same in the expansion, or a letter. -/
theorem closes_expansion (h : Scanned (.inside b) cs ps)
    (hclose : Piece.closes b (c :: cs) = false) :
    Piece.closes b (c :: expansion ps) = false := by
  cases h with
  | done => rfl
  | closing h =>
    rw [closes_cons_cons] at hclose
    exact (closes_cons_cons).trans hclose
  | plainInside _ _ h =>
    rw [closes_cons_cons] at hclose
    exact (closes_cons_cons).trans hclose
  | @referenceInside _ r rest ps _ hread h =>
    obtain ⟨a, more, hpath, ha⟩ := (Reference.read?_hasPath hread).head
    have hexpansion : expansion (.reference (.inside b) r :: ps) = a :: (more ++ expansion ps) := by
      simp [expansion, Piece.expanded, hpath]
    have hletter : a ≠ '}' := by
      rintro rfl
      exact absurd ha (by decide)
    rw [hexpansion, closes_cons_cons]
    simp [hletter]

theorem cutsInto_plainInside (hclose : Piece.closes b (c :: rest) = false)
    (h : Scanned (.inside b) rest ps) (ih : CutsInto (.inside b) rest ps) :
    CutsInto (.inside b) (c :: rest) (.plain c :: ps) := by
  intro seen
  have hcut : cutBlocks (.inside b) seen (expansion (.plain c :: ps)) =
      cutBlocks (.inside b) (seen ++ [c]) (expansion ps) :=
    cutBlocks_inside_cons (closes_expansion h hclose)
  have hhead : ∀ r, ps.head? ≠ some (.reference .text r) := by
    cases h <;> simp
  rw [hcut]
  exact (ih (seen ++ [c])).of_iff (by simp [crowded_cons, hhead])

end

theorem cutsInto_of_scanned {region : Region} {cs : List Char} {ps : List Piece}
    (h : Scanned region cs ps) : CutsInto region cs ps := by
  induction h with
  | done region => exact cutsInto_done region
  | opening _ ih => exact cutsInto_opening ih
  | reference hread _ ih => exact cutsInto_reference (Reference.read?_hasPath hread) ih
  | escaped hread _ ih => exact cutsInto_escaped (Reference.read?_hasPath hread) ih
  | plain hopen _ _ _ ih => exact cutsInto_plain hopen ih
  | closing _ ih => exact cutsInto_closing ih
  | referenceInside _ hread _ ih =>
    exact cutsInto_referenceInside (Reference.read?_hasPath hread) ih
  | plainInside hclose _ h ih => exact cutsInto_plainInside hclose h ih

def Region.pending (seen : List Char) : Region → List Char
  | .text => []
  | .inside b => '{' :: b.opener :: seen

theorem source_cutBlocks (region : Region) (seen cs : List Char) :
    (cutBlocks region seen cs).flatMap Segment.source = region.pending seen ++ cs := by
  fun_induction cutBlocks region seen cs with
  | case1 => rfl
  | case2 => simp [Segment.source, Region.pending]
  | case3 seen c cs b hopen ih =>
    obtain ⟨rest, hcs⟩ := Piece.opening?_eq_some hopen
    obtain ⟨rfl, rfl⟩ := List.cons.inj hcs
    rw [ih]
    rfl
  | case4 seen c cs hopen ih =>
    rw [List.flatMap_cons, ih]
    rfl
  | case5 seen b c cs hclose ih =>
    obtain ⟨rest, hcs⟩ := Piece.closes_eq_true hclose
    obtain ⟨rfl, rfl⟩ := List.cons.inj hcs
    rw [List.flatMap_cons, ih]
    simp [Segment.source, Region.pending]
  | case6 seen b c cs hclose ih =>
    rw [ih]
    simp [Region.pending]

/-- The expansion of a template, cut again at its delimiters, is the outline of the template
exactly when no reference in plain text stands directly behind a `{`. -/
theorem cutBlocks_expand_eq_outline_iff (template : String) :
    (cutBlocks .text [] (expand template).toList).flatMap Segment.source =
        (expand template).toList ∧
      (cutBlocks .text [] (expand template).toList = outline .text [] (scan .text template.toList) ↔
        ¬ Crowded (scan .text template.toList)) := by
  have hexpand : (expand template).toList = expansion (scan .text template.toList) :=
    String.toList_ofList
  refine ⟨source_cutBlocks .text [] _, ?_⟩
  rw [hexpand]
  exact (cutsInto_of_scanned (scanned_scan .text template.toList)).1.eq_iff

theorem cutBlocks_expand_braced_reference :
    outline .text [] (scan .text "\x7b$field\x7d".toList) =
        [.text '{', .block .output " field ".toList true, .text '}'] ∧
      cutBlocks .text [] (expand "\x7b$field\x7d").toList =
        [.block .output "\x7b field ".toList true, .text '}'] := by
  decide +kernel

end BeanDoc.Template
