import BeanDoc.Proofs.ReferenceRendering

/-! Texts written with escapes. A backslash goes in front of each reference of a text, and a
template with these backslashes stands for the text itself. The backslashes neither make a new
reference nor take one away, so none of them gets in the way of another. -/

namespace BeanDoc.Template

/-- The text with a backslash in front of each reference. References are looked for from left to
right, each one behind the end of the one before. -/
def escape (cs : List Char) : List Char :=
  match cs with
  | [] => []
  | c :: cs =>
    match _h : Reference.read? (c :: cs) with
    | some (r, rest) => '\\' :: (r.spelling ++ escape rest)
    | none => c :: escape cs
termination_by cs.length
decreasing_by
  · exact Reference.read?_length_lt _h
  · simp

def escaped (text : String) : String :=
  String.ofList (escape text.toList)

section
variable {c : Char} {as cs out rest : List Char} {r : Reference}

theorem escape_cons (h : Reference.read? (c :: cs) = none) : escape (c :: cs) = c :: escape cs := by
  rw [escape]
  split
  · next heq => rw [h] at heq; cases heq
  · rfl

theorem head?_escape (cs : List Char) : (escape cs).head? = cs.head? ∨
    (escape cs).head? = some '\\' ∧ cs.head? = some '$' := by
  fun_cases escape cs with
  | case1 => exact .inl rfl
  | case2 c cs r rest hread =>
    rw [Reference.read?_append hread]
    exact .inr ⟨rfl, rfl⟩
  | case3 c cs hread => exact .inl rfl

theorem continuesPath_escape (cs : List Char) : continuesPath (escape cs) = continuesPath cs := by
  fun_cases escape cs with
  | case1 => rfl
  | case2 c cs r rest hread =>
    rw [Reference.read?_append hread]
    rfl
  | case3 c cs hread =>
    have hletter : (escape cs).head?.any Char.isAlpha = cs.head?.any Char.isAlpha := by
      rcases head?_escape cs with hsame | ⟨hescape, hdollar⟩
      · rw [hsame]
      · rw [hescape, hdollar]
        rfl
    rw [continuesPath, continuesPath, hletter]

theorem opening?_escape (h : Piece.opening? (c :: cs) = none) :
    Piece.opening? (c :: escape cs) = none := by
  by_cases hc : c = '{'
  · subst hc
    -- only the next character counts, and a backslash opens nothing
    have hnext : ∀ ds : List Char, Piece.opening? ('{' :: ds) = ds.head?.bind Block.ofOpener? := by
      intro ds
      cases ds <;> rfl
    rw [hnext] at h ⊢
    rcases head?_escape cs with hsame | ⟨hescape, -⟩
    · rw [hsame, h]
    · rw [hescape]
      rfl
  · exact opening?_of_ne hc

theorem exists_of_escape_eq_append (h : escape cs = as ++ out) (has : '\\' ∉ as) :
    ∃ rest, cs = as ++ rest ∧ escape rest = out := by
  induction as generalizing cs with
  | nil => exact ⟨cs, rfl, h⟩
  | cons a as ih =>
    obtain ⟨ha, hmore⟩ := not_or.1 (mt List.mem_cons.2 has)
    revert h
    fun_cases escape cs with
    | case1 =>
      intro h
      cases h
    | case2 c cs r rest hread =>
      intro h
      exact absurd (List.cons.inj h).1 ha
    | case3 c cs hread =>
      intro h
      obtain ⟨rfl, hcs⟩ := List.cons.inj h
      obtain ⟨rest, rfl, hrest⟩ := ih hcs hmore
      exact ⟨rest, rfl, hrest⟩

/-- No escaped text begins with a reference. One that did would have no backslash in its spelling,
so it would stand in the text as well, and there it would have got one in front. -/
theorem read?_escape (cs : List Char) : Reference.read? (escape cs) = none := by
  fun_cases escape cs with
  | case1 => rfl
  | case2 c cs r rest hread => exact Reference.read?_of_ne (by decide)
  | case3 c cs hread =>
    by_contra hsome
    obtain ⟨⟨r, out⟩, hfound⟩ := Option.ne_none_iff_exists'.1 hsome
    obtain ⟨happend, hpath, hend⟩ := Reference.read?_eq_some_iff.1 hfound
    obtain ⟨mark, hspelling⟩ : ∃ mark, r.spelling = '$' :: mark := ⟨_, rfl⟩
    have hmark : '\\' ∉ mark := by
      have hnone : '\\' ∉ r.spelling :=
        hpath.not_mem_spelling (by decide) (by simp [Reference.IsPathChar, Reference.isNameChar])
      rw [hspelling] at hnone
      exact fun hmem => hnone (List.mem_cons_of_mem '$' hmem)
    rw [hspelling, List.cons_append] at happend
    obtain ⟨rfl, hcs⟩ := List.cons.inj happend
    obtain ⟨rest, rfl, rfl⟩ := exists_of_escape_eq_append hcs hmark
    have hthere : Reference.read? ('$' :: (mark ++ rest)) = some (r, rest) := by
      refine Reference.read?_eq_some_iff.2 ⟨by rw [hspelling, List.cons_append], hpath, ?_⟩
      rwa [continuesPath_escape] at hend
    rw [hread] at hthere
    cases hthere

end

theorem scanned_escape {cs : List Char} (h : OpensNone [] cs) :
    ∃ ps, Scanned .text (escape cs) ps ∧ ps.flatMap Piece.expanded = cs := by
  fun_induction escape cs with
  | case1 => exact ⟨[], .done .text, rfl⟩
  | case2 c cs r rest hread ih =>
    obtain ⟨happend, hpath, hend⟩ := Reference.read?_eq_some_iff.1 hread
    rw [happend] at h ⊢
    obtain ⟨ps, hps, hexpanded⟩ := ih h.of_append
    have hread' : Reference.read? (r.spelling ++ escape rest) = some (r, escape rest) := by
      refine Reference.read?_eq_some_iff.2 ⟨rfl, hpath, ?_⟩
      rwa [continuesPath_escape]
    refine ⟨.escaped r :: ps, .escaped hread' hps, ?_⟩
    rw [List.flatMap_cons, hexpanded, Piece.expanded]
  | case3 c cs hread ih =>
    obtain ⟨ps, hps, hexpanded⟩ := ih h.2
    have hopen : Piece.opening? (c :: cs) = none := by simpa using h.1
    have hread' : Reference.read? (c :: escape cs) = none := by
      rw [← escape_cons hread]
      exact read?_escape (c :: cs)
    refine ⟨.plain c :: ps, .plain (opening?_escape hopen) hread' (fun _ => read?_escape cs) hps, ?_⟩
    rw [List.flatMap_cons, hexpanded]
    rfl

theorem expand_escaped_of_opensNone {text : String} (h : OpensNone [] text.toList) :
    expand (escaped text) = text := by
  obtain ⟨ps, hps, hexpanded⟩ := scanned_escape h
  rw [expand, escaped, String.toList_ofList, scan_eq_of_scanned hps, hexpanded, String.ofList_toList]

/-- Every text without a delimiter can be written as a template. With its references escaped it
expands to itself, and so it is rendered as it is, whatever the variables are. -/
theorem expand_escaped (text : String) (h : ∀ b : Block, ¬ ['{', b.opener] <:+: text.toList) :
    expand (escaped text) = text ∧ ∀ c : Context, render (escaped text) c = .ok text := by
  have hopen : OpensNone [] text.toList := opensNone_of_noBlock h rfl
  have hexpand : expand (escaped text) = text := expand_escaped_of_opensNone hopen
  refine ⟨hexpand, fun c => ?_⟩
  rw [render_of_opensNone (by rwa [hexpand]) c, hexpand]

theorem expand_escaped_mixed :
    let text := "\\$a.b.$$c \x7b$\x7bd $!\x7be\x7d.f $5"
    escaped text = "\\\\$a.b.$\\$c \x7b$\x7bd \\$!\x7be\x7d.f $5" ∧
      (∀ b : Block, ¬ ['{', b.opener] <:+: text.toList) ∧
      expand (escaped text) = text ∧ render (escaped text) .sample = .ok text := by
  intro text
  have h : ∀ b : Block, ¬ ['{', b.opener] <:+: text.toList := by
    intro b
    cases b <;> decide
  have htext : escaped text = "\\\\$a.b.$\\$c \x7b$\x7bd \\$!\x7be\x7d.f $5" := by decide +kernel
  obtain ⟨hexpand, hrender⟩ := expand_escaped text h
  exact ⟨htext, h, hexpand, hrender .sample⟩

end BeanDoc.Template
