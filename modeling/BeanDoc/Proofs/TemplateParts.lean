import BeanDoc.Proofs.TemplatePieces

/-! Templates put together from parts: plain text, references, escaped references, tags and
comments. As long as no reference runs into what stands behind it, the expansion of the whole is
that of the parts, one after the other. -/

namespace BeanDoc.Template

inductive TagPart where
  | char (c : Char)
  | reference (r : Reference)
  deriving DecidableEq, Repr

inductive Part where
  | text (cs : List Char)
  | reference (r : Reference)
  | escaped (r : Reference)
  /-- An output or a statement. -/
  | tag (b : Block) (contents : List TagPart)
  | comment (contents : List Char)
  deriving DecidableEq, Repr

def Block.enclose (b : Block) (contents : List Char) : List Char :=
  ['{', b.opener] ++ contents ++ [b.closer, '}']

structure Reference.EndsBefore (r : Reference) (rest : List Char) : Prop where
  path : IsDottedPath r.path
  ends : r.braced = true ∨ continuesPath rest = false

instance (r : Reference) (rest : List Char) : Decidable (r.EndsBefore rest) :=
  decidable_of_iff (Reference.IsDottedPath r.path ∧ (r.braced = true ∨ continuesPath rest = false))
    ⟨fun h => ⟨h.1, h.2⟩, fun h => ⟨h.path, h.ends⟩⟩

namespace TagPart

def source : TagPart → List Char
  | char c => [c]
  | reference r => r.spelling

def expanded : TagPart → List Char
  | char c => [c]
  | reference r => r.path

def Fits (rest : List Char) : TagPart → Prop
  | char c => c ≠ '$' ∧ c ≠ '}'
  | reference r => r.EndsBefore rest

instance (rest : List Char) : (p : TagPart) → Decidable (p.Fits rest)
  | char c => inferInstanceAs (Decidable (c ≠ '$' ∧ c ≠ '}'))
  | reference r => inferInstanceAs (Decidable (r.EndsBefore rest))

def AllFit (rest : List Char) : List TagPart → Prop
  | [] => True
  | p :: ps => p.Fits (ps.flatMap source ++ rest) ∧ AllFit rest ps

instance decidableAllFit (rest : List Char) : (ps : List TagPart) → Decidable (AllFit rest ps)
  | [] => inferInstanceAs (Decidable True)
  | p :: ps =>
    have := decidableAllFit rest ps
    inferInstanceAs (Decidable (p.Fits (ps.flatMap source ++ rest) ∧ AllFit rest ps))

def piece (b : Block) : TagPart → Piece
  | char c => .plain c
  | reference r => .reference (.inside b) r

end TagPart

namespace Part

def source : Part → List Char
  | text cs => cs
  | reference r => r.spelling
  | escaped r => '\\' :: r.spelling
  | tag b contents => b.enclose (contents.flatMap TagPart.source)
  | comment contents => Block.comment.enclose contents

def expanded : Part → List Char
  | text cs => cs
  | reference r => ['{', '{', ' '] ++ r.path ++ [' ', '}', '}']
  | escaped r => r.spelling
  | tag b contents => b.enclose (contents.flatMap TagPart.expanded)
  | comment contents => Block.comment.enclose contents

def Fits (rest : List Char) : Part → Prop
  | text cs => '$' ∉ cs ∧ '{' ∉ cs ∧ '\\' ∉ cs
  | reference r => r.EndsBefore rest
  | escaped r => r.EndsBefore rest
  | tag b contents => b ≠ .comment ∧ TagPart.AllFit (b.closer :: '}' :: rest) contents
  | comment contents => '}' ∉ contents

instance (rest : List Char) : (p : Part) → Decidable (p.Fits rest)
  | text cs => inferInstanceAs (Decidable ('$' ∉ cs ∧ '{' ∉ cs ∧ '\\' ∉ cs))
  | reference r => inferInstanceAs (Decidable (r.EndsBefore rest))
  | escaped r => inferInstanceAs (Decidable (r.EndsBefore rest))
  | tag b contents => inferInstanceAs
      (Decidable (b ≠ .comment ∧ TagPart.AllFit (b.closer :: '}' :: rest) contents))
  | comment contents => inferInstanceAs (Decidable ('}' ∉ contents))

def AllFit : List Part → Prop
  | [] => True
  | p :: ps => p.Fits (ps.flatMap source) ∧ AllFit ps

instance decidableAllFit : (ps : List Part) → Decidable (AllFit ps)
  | [] => inferInstanceAs (Decidable True)
  | p :: ps =>
    have := decidableAllFit ps
    inferInstanceAs (Decidable (p.Fits (ps.flatMap source) ∧ AllFit ps))

def pieces : Part → List Piece
  | text cs => cs.map .plain
  | reference r => [.reference .text r]
  | escaped r => [.escaped r]
  | tag b contents => .opening b :: (contents.map (TagPart.piece b) ++ [.closing b])
  | comment contents => .opening .comment :: (contents.map .plain ++ [.closing .comment])

end Part

section
variable {b : Block} {rest : List Char} {ps : List Piece}

theorem head_ne_brace {contents : List TagPart}
    (hfit : TagPart.AllFit (b.closer :: '}' :: rest) contents) (hb : b ≠ .output) :
    ∀ d ∈ (contents.flatMap TagPart.source ++ b.closer :: '}' :: rest).head?, d ≠ '}' := by
  intro d hd
  rcases contents with _ | ⟨p, contents⟩
  · obtain rfl : b.closer = d := by simpa using hd
    cases b with
    | output => exact absurd rfl hb
    | statement => decide
    | comment => decide
  · obtain ⟨hp, -⟩ := hfit
    cases p with
    | char c =>
      obtain rfl : c = d := by simpa [TagPart.source] using hd
      exact hp.2
    | reference r =>
      obtain rfl : '$' = d := by simpa [TagPart.source, Reference.spelling] using hd
      decide

theorem scanned_contents {contents : List TagPart} (hcode : b ≠ .comment)
    (hfit : TagPart.AllFit (b.closer :: '}' :: rest) contents) (h : Scanned .text rest ps) :
    Scanned (.inside b) (contents.flatMap TagPart.source ++ b.closer :: '}' :: rest)
      (contents.map (TagPart.piece b) ++ .closing b :: ps) := by
  induction contents with
  | nil => exact .closing h
  | cons p contents ih =>
    obtain ⟨hp, hrest⟩ := hfit
    rw [List.flatMap_cons, List.append_assoc]
    cases p with
    | char c =>
      have hclose : Piece.closes b
          (c :: (contents.flatMap TagPart.source ++ b.closer :: '}' :: rest)) = false := by
        -- an output is closed by two braces, and `c` is none; the other tags by a brace behind `c`
        by_cases hb : b = .output
        · subst hb
          exact closes_of_ne hp.2
        · exact closes_of_head_ne (head_ne_brace hrest hb)
      exact .plainInside hclose (.inr (Reference.read?_of_ne hp.1)) (ih hrest)
    | reference r =>
      exact .referenceInside hcode (Reference.read?_spelling hp.path hp.ends) (ih hrest)

theorem scanned_comment {contents : List Char} (hfit : '}' ∉ contents) (h : Scanned .text rest ps) :
    Scanned (.inside .comment) (contents ++ Block.comment.closer :: '}' :: rest)
      (contents.map .plain ++ .closing .comment :: ps) := by
  induction contents with
  | nil => exact .closing h
  | cons c contents ih =>
    simp only [List.mem_cons, not_or] at hfit
    have hhead : ∀ d ∈ (contents ++ Block.comment.closer :: '}' :: rest).head?, d ≠ '}' := by
      rintro d hd rfl
      rcases contents with _ | ⟨e, contents⟩
      · simp [Block.closer] at hd
      · obtain rfl : e = '}' := by simpa using hd
        simp at hfit
    exact .plainInside (closes_of_head_ne hhead) (.inl rfl) (ih hfit.2)

namespace Part

theorem scanned (p : Part) (hfit : p.Fits rest) (h : Scanned .text rest ps) :
    Scanned .text (p.source ++ rest) (p.pieces ++ ps) := by
  cases p with
  | text cs =>
    obtain ⟨hreference, hbrace, hescape⟩ := hfit
    have hopen : OpensNone rest cs := opensNone_of_ne fun c hc heq => hbrace (heq ▸ hc)
    exact scanned_plain_append hopen hreference hescape h
  | reference r => exact .reference (Reference.read?_spelling hfit.path hfit.ends) h
  | escaped r => exact .escaped (Reference.read?_spelling hfit.path hfit.ends) h
  | tag b contents =>
    have hinside := Scanned.opening (scanned_contents hfit.1 hfit.2 h)
    simpa [source, pieces, Block.enclose] using hinside
  | comment contents =>
    have hinside := Scanned.opening (scanned_comment hfit h)
    simpa [source, pieces, Block.enclose] using hinside

theorem expanded_pieces (p : Part) : p.pieces.flatMap Piece.expanded = p.expanded := by
  cases p with
  | text cs => exact expanded_map_plain cs
  | reference r => exact List.append_nil _
  | escaped r => exact List.append_nil _
  | tag b contents =>
    have hcontents : (contents.map (TagPart.piece b)).flatMap Piece.expanded =
        contents.flatMap TagPart.expanded := by
      rw [List.flatMap_map]
      refine congrArg (List.flatMap · contents) (funext fun p => ?_)
      cases p <;> rfl
    rw [pieces, List.flatMap_cons, List.flatMap_append, hcontents]
    simp [expanded, Block.enclose, Piece.expanded]
  | comment contents =>
    rw [pieces, List.flatMap_cons, List.flatMap_append, expanded_map_plain]
    simp [expanded, Block.enclose, Piece.expanded]

end Part

end

theorem scanned_parts {parts : List Part} (h : Part.AllFit parts) :
    Scanned .text (parts.flatMap Part.source) (parts.flatMap Part.pieces) := by
  induction parts with
  | nil => exact .done .text
  | cons p parts ih => exact p.scanned h.1 (ih h.2)

/-- The expansion of a template made of parts is made of the expansions of its parts. -/
theorem expand_parts {parts : List Part} (h : Part.AllFit parts) :
    expand (String.ofList (parts.flatMap Part.source)) =
      String.ofList (parts.flatMap Part.expanded) := by
  rw [expand, String.toList_ofList, scan_eq_of_scanned (scanned_parts h), List.flatMap_assoc]
  simp only [Part.expanded_pieces]

theorem expand_parts_of_each_kind :
    let parts : List Part :=
      [.text "Is ".toList,
        .tag .statement [.char '%', .reference ⟨true, true, "field".toList⟩, .char '%'],
        .reference ⟨false, false, "field.name".toList⟩, .text "., ".toList,
        .comment "$p #".toList, .escaped ⟨true, false, "x".toList⟩,
        .tag .output [.char '\\', .reference ⟨false, false, "p_1".toList⟩,
          .reference ⟨false, true, "q".toList⟩]]
    Part.AllFit parts ∧
      String.ofList (parts.flatMap Part.source) = "Is \x7b%%$!\x7bfield\x7d%%\x7d$field.name., " ++
        "\x7b#$p ##\x7d\\$!x\x7b\x7b\\$p_1$\x7bq\x7d\x7d\x7d" ∧
      expand (String.ofList (parts.flatMap Part.source)) =
        "Is \x7b%%field%%\x7d\x7b\x7b field.name \x7d\x7d., " ++
          "\x7b#$p ##\x7d$!x\x7b\x7b\\p_1q\x7d\x7d" := by
  intro parts
  have h : Part.AllFit parts := by decide +kernel
  refine ⟨h, by decide +kernel, ?_⟩
  rw [expand_parts h]
  decide +kernel

end BeanDoc.Template
