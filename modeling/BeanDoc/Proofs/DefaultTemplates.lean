import BeanDoc.Proofs.AccessorRules
import BeanDoc.Proofs.CanonicalComment
import BeanDoc.Proofs.GeneratedEdits
import BeanDoc.Proofs.ReferenceRendering
import BeanDoc.Proofs.RepeatedLayout

/-! The default templates. With the property of an accessor in its place, each of them renders to a
comment that is laid out already and that says what the template says, unless the name of the
property is one that the reader of comments would take for something else. -/

namespace BeanDoc

open Text

namespace DocComment

def block (ls : List (List Char)) : String :=
  String.ofList (['/', '*', '*', '\n'] ++ ls.flatMap decorate ++ [' ', '*', '/'])

/-- A content line that a layout leaves as it is, and that is no end for the comment and no start
for an inline tag. -/
structure IsQuiet (l : List Char) : Prop where
  newline : '\n' ∉ l
  trimmed : trimEnd l = l
  noTerminator : l.IsChain (Apart '*' '/')
  noInlineTag : l.IsChain (Apart '{' '@')

structure IsHarmless (name : String) : Prop where
  oneWord : ∀ c ∈ name.toList, isBlank c = false
  noTerminator : ¬ ['*', '/'] <:+: name.toList
  noInlineTag : ¬ ['{', '@'] <:+: name.toList

instance (l : List Char) : Decidable (IsQuiet l) :=
  decidable_of_iff ('\n' ∉ l ∧ trimEnd l = l ∧ occurs ['*', '/'] l = false ∧
      occurs ['{', '@'] l = false)
    ⟨fun h => ⟨h.1, h.2.1, occurs_pair_eq_false_iff.1 h.2.2.1, occurs_pair_eq_false_iff.1 h.2.2.2⟩,
      fun h => ⟨h.newline, h.trimmed, occurs_pair_eq_false_iff.2 h.noTerminator,
        occurs_pair_eq_false_iff.2 h.noInlineTag⟩⟩

theorem isHarmless_iff {name : String} : IsHarmless name ↔
    (name.toList.all fun c => !isBlank c) = true ∧ occurs ['*', '/'] name.toList = false ∧
      occurs ['{', '@'] name.toList = false := by
  have hword : (name.toList.all fun c => !isBlank c) = true ↔
      ∀ c ∈ name.toList, isBlank c = false := by
    simp only [List.all_eq_true, Bool.not_eq_true']
  rw [hword, occurs_pair_eq_false_iff, occurs_pair_eq_false_iff, isChain_apart_iff,
    isChain_apart_iff]
  constructor
  · rintro ⟨hblank, hterminator, htag⟩
    exact ⟨hblank, hterminator, htag⟩
  · rintro ⟨hblank, hterminator, htag⟩
    exact ⟨hblank, hterminator, htag⟩

instance (name : String) : Decidable (IsHarmless name) :=
  decidable_of_iff _ isHarmless_iff.symm

section
variable {ls : List (List Char)}

theorem body_block_lines (ls : List (List Char)) :
    body (block ls).toList = .ok ([] ++ '\n' :: (ls.flatMap decorate ++ [' '])) := by
  have hblock : (block ls).toList =
      ['/', '*', '*'] ++ ([] ++ '\n' :: (ls.flatMap decorate ++ [' '])) ++ ['*', '/'] := by
    simp [block]
  rw [hblock, body_block]

theorem bodyLines_block (hquiet : ∀ l ∈ ls, IsQuiet l) (hends : dropBlankEnds ls = ls) :
    bodyLines ([] ++ '\n' :: (ls.flatMap decorate ++ [' '])) = ls := by
  have hlines : ∀ l ∈ ls, '\n' ∉ l ∧ trimEnd l = l :=
    fun l hl => ⟨(hquiet l hl).newline, (hquiet l hl).trimmed⟩
  rw [bodyLines_decorate hlines, hends]

theorem layout_block (hquiet : ∀ l ∈ ls, IsQuiet l) (hends : dropBlankEnds ls = ls)
    (hne : ls ≠ []) : layout (block ls) = block ls := by
  have hlines := bodyLines_block hquiet hends
  rw [layout, body_block_lines]
  dsimp only
  rw [layoutBody_eq_block, laidOut_lines (hlines.symm ▸ hne) (by simp), hlines, block]
  simp

theorem leavesOpen_of_isChain {l : List Char} (h : l.IsChain (Apart '{' '@')) :
    leavesOpen false l = false := by
  rw [Bool.eq_false_iff]
  intro hopen
  rcases leavesOpen_eq_true_iff.1 hopen with ⟨hfalse, -⟩ | ⟨pre, post, rfl, -⟩
  · cases hfalse
  · exact isChain_apart_iff.1 h ⟨pre, post, by simp⟩

theorem foldl_leavesOpen_of_quiet (hquiet : ∀ l ∈ ls, IsQuiet l) :
    ls.foldl leavesOpen false = false := by
  induction ls with
  | nil => rfl
  | cons l ls ih =>
    rw [List.foldl_cons, leavesOpen_of_isChain (hquiet l List.mem_cons_self).noInlineTag]
    exact ih fun k hk => hquiet k (List.mem_cons_of_mem l hk)

theorem parse_block {doc : DocComment} (hquiet : ∀ l ∈ ls, IsQuiet l)
    (hends : dropBlankEnds ls = ls) (hdoc : ofContent? ls = some doc) :
    parse (block ls) = .ok doc := by
  have hlines := bodyLines_block hquiet hends
  refine parse_eq_ok_iff.2 ⟨_, body_block_lines ls, ?_, ?_, ?_⟩
  · rw [occurs_pair_eq_false_iff]
    exact isChain_append_separator (by decide) (by decide) List.isChain_nil
      (isChain_decorate fun l hl => (hquiet l hl).noTerminator)
  · rw [← foldl_leavesOpen_bodyLines, hlines, foldl_leavesOpen_of_quiet hquiet]
  · rw [← ofContent?_bodyLines, hlines, hdoc]

end

theorem decorate_of_not_blank {l : List Char} (h : allBlank l = false) :
    decorate l = [' ', '*', ' '] ++ l ++ ['\n'] := by
  rw [decorate, h]
  rfl

def tagLine (t : BlockTag) : List Char :=
  join [' '] (('@' :: t.name.toList) :: (t.argument.map String.toList).toList ++ [t.text.toList])

theorem ofContent?_described {description : List Char} {t : BlockTag} (hsolid : Solid description)
    (hhead : description.head? ≠ some '@')
    (htag : line? (tagLine t) =
      some (.tag t.name.toList (t.argument.map String.toList) t.text.toList))
    (htext : trim t.text.toList = t.text.toList) :
    ofContent? [description, [], tagLine t] = some ⟨String.ofList description, [t]⟩ := by
  have htrim := hsolid.trim_eq_self
  have hdescription : line? description = some (.text description) := by
    rw [line?_of_text (by rwa [htrim]), htrim]
  have hblank : line? [] = some (.text []) := line?_of_blank rfl
  have hlead : joinLines [description, []] = description := by
    rw [show [description, []] = [description] ++ [[]] from rfl, joinLines_append_nil, joinLines,
      join, htrim]
  have hcontent : joinLines [t.text.toList] = t.text.toList := by rw [joinLines, join, htext]
  simp [ofContent?, hdescription, hblank, htag, ofLines, gather, hlead, hcontent, Function.comp_def]

section
variable {name : String}

theorem IsHarmless.isQuiet (h : IsHarmless name) {lead tail : List Char} {sep : Char}
    (hlead : IsQuiet lead) (htail : IsQuiet (sep :: tail)) (hsolid : allBlank (sep :: tail) = false)
    (hsep : sep ≠ '*' ∧ sep ≠ '/' ∧ sep ≠ '{' ∧ sep ≠ '@') :
    IsQuiet (lead ++ ' ' :: (name.toList ++ sep :: tail)) := by
  obtain ⟨hstar, hslash, hbrace, hat⟩ := hsep
  have hname : '\n' ∉ name.toList := newline_not_mem h.oneWord
  -- neither the blank in front of the name nor `sep` behind it is part of a pair
  refine ⟨?_, ?_, ?_, ?_⟩
  · have htail' := htail.newline
    simp_all [hlead.newline]
  · have happend := trimEnd_append_of_not_blank hsolid (lead ++ ' ' :: name.toList)
    rw [htail.trimmed] at happend
    simpa using happend
  · refine isChain_append_separator (by decide) (by decide) hlead.noTerminator
      (isChain_append_separator hstar hslash (isChain_apart_iff.2 h.noTerminator) ?_)
    exact htail.noTerminator.tail
  · refine isChain_append_separator (by decide) (by decide) hlead.noInlineTag
      (isChain_append_separator hbrace hat (isChain_apart_iff.2 h.noInlineTag) ?_)
    exact htail.noInlineTag.tail

end

end DocComment

open DocComment Template

namespace TemplateKind

def lead : TemplateKind → List Char
  | getter => "/**\n * Getter for field ".toList
  | setter => "/**\n * Setter for field ".toList

def slots : TemplateKind → List Slot
  | getter => [⟨.field, false, false, ".\n *\n * @return the value of the field.\n */".toList⟩]
  | setter => [⟨.field, false, false, ".\n *\n * @param ".toList⟩,
      ⟨.field, false, false, " the value to set for the field.\n */".toList⟩]

def opening : TemplateKind → String
  | getter => "Getter for field"
  | setter => "Setter for field"

def tag (name : String) : TemplateKind → BlockTag
  | getter => ⟨"return", none, "the value of the field."⟩
  | setter => ⟨"param", some name, "the value to set for the field."⟩

def comment (name : String) (k : TemplateKind) : DocComment :=
  ⟨k.opening ++ " " ++ name ++ ".", [k.tag name]⟩

def contentLines (name : String) (k : TemplateKind) : List (List Char) :=
  [k.opening.toList ++ ' ' :: (name.toList ++ ['.']), [], tagLine (k.tag name)]

theorem alternates_default (k : TemplateKind) : Alternates k.lead k.slots := by
  cases k with
  | getter => exact .slot (by decide) (by decide) (.inr (by decide)) (.text (by decide))
  | setter =>
    exact .slot (by decide) (by decide) (.inr (by decide))
      (.slot (by decide) (by decide) (.inr (by decide)) (.text (by decide)))

theorem source_default (k : TemplateKind) :
    (ReferenceTemplate.mk k.lead k.slots k.alternates_default).source = k.default := by
  cases k <;> decide

theorem filled_default {c : Context} {name : String} (hfield : c.field = some name)
    (k : TemplateKind) : String.ofList (k.lead ++ k.slots.flatMap (Slot.filled c)) =
      block (k.contentLines name) := by
  have hvalue : ((Variable.field.value? c).getD "").toList = name.toList := by
    rw [show Variable.field.value? c = some name from hfield, Option.getD_some]
  have hblank : decorate [] = [' ', '*', '\n'] := rfl
  cases k
  all_goals
    -- opened within `simp`, the literals would be evaluated at every step
    unfold lead slots contentLines block opening tag tagLine
    simp only [List.flatMap_cons, List.flatMap_nil, Slot.filled, hvalue, hblank]
    rw [decorate_of_not_blank rfl, decorate_of_not_blank rfl]
    simp [join]

theorem render_default {c : Context} {name : String} (hfield : c.field = some name)
    (k : TemplateKind) : render k.default c = .ok (block (k.contentLines name)) := by
  rw [← source_default, render_source, ReferenceTemplate.filled, filled_default hfield]

section
variable {name : String}

theorem isQuiet_tagLine (h : IsHarmless name) (k : TemplateKind) :
    IsQuiet (tagLine (k.tag name)) := by
  cases k with
  | getter => exact (by decide : IsQuiet (tagLine (tag "" .getter)))
  | setter =>
    have htag : IsQuiet ("@param".toList ++ ' ' ::
        (name.toList ++ ' ' :: "the value to set for the field.".toList)) :=
      h.isQuiet (by decide) (by decide) rfl (by decide)
    simpa [tag, tagLine, join] using htag

theorem isQuiet_contentLines (h : IsHarmless name) (k : TemplateKind) :
    ∀ l ∈ k.contentLines name, IsQuiet l := by
  have hopening : IsQuiet k.opening.toList := by cases k <;> decide
  have hdescription : IsQuiet (k.opening.toList ++ ' ' :: (name.toList ++ ['.'])) :=
    h.isQuiet hopening (by decide) rfl (by decide)
  have hblank : IsQuiet [] := by decide
  have htag := isQuiet_tagLine h k
  simp only [contentLines, List.forall_mem_cons]
  exact ⟨hdescription, hblank, htag, List.forall_mem_nil _⟩

theorem dropBlankEnds_contentLines (name : String) (k : TemplateKind) :
    dropBlankEnds (k.contentLines name) = k.contentLines name := by
  cases k <;> rfl

theorem solid_tag_text (name : String) (k : TemplateKind) : Solid (k.tag name).text.toList := by
  cases k with
  | getter =>
    have htext : Solid "the value of the field.".toList := .of_trim (by decide) (by decide)
    exact htext
  | setter =>
    have htext : Solid "the value to set for the field.".toList := .of_trim (by decide) (by decide)
    exact htext

theorem line?_tagLine (h : IsHarmless name) (hne : name ≠ "") (k : TemplateKind) :
    line? (tagLine (k.tag name)) = some (.tag (k.tag name).name.toList
      ((k.tag name).argument.map String.toList) (k.tag name).text.toList) := by
  have htext : ∀ w ∈ [(k.tag name).text.toList], Solid w :=
    fun w hw => List.mem_singleton.1 hw ▸ solid_tag_text name k
  cases k with
  | getter =>
    have hname : isTagName "return".toList = true := by decide
    have hfree : takesArgument "return".toList = false := by decide
    exact line?_first_line hname nofun htext nofun
      fun _ htakes => absurd (hfree.symm.trans htakes) Bool.false_ne_true
  | setter =>
    have hname : isTagName "param".toList = true := by decide
    have hword : ∀ a, some name.toList = some a → a ≠ [] ∧ ∀ c ∈ a, isBlank c = false := by
      rintro a ⟨⟩
      exact ⟨fun hnil => hne (String.toList_eq_nil_iff.1 hnil), h.oneWord⟩
    have htakes : takesArgument "param".toList = true := by decide
    exact line?_first_line hname hword htext (fun _ => htakes) nofun

theorem parse_default (h : IsHarmless name) (hne : name ≠ "") (k : TemplateKind) :
    DocComment.parse (block (k.contentLines name)) = .ok (k.comment name) := by
  have hopening : Solid k.opening.toList := by
    cases k <;> exact .of_trim (by decide) (by decide)
  have hdot : Solid ['.'] := .of_trim (by decide) (by decide)
  have hsolid : Solid (k.opening.toList ++ ' ' :: (name.toList ++ ['.'])) := by
    simpa using hopening.append hdot (' ' :: name.toList)
  have hhead : (k.opening.toList ++ ' ' :: (name.toList ++ ['.'])).head? ≠ some '@' := by
    cases k <;> simp [opening]
  have htext := (solid_tag_text name k).trim_eq_self
  have hdescription : String.ofList (k.opening.toList ++ ' ' :: (name.toList ++ ['.'])) =
      k.opening ++ " " ++ name ++ "." := by
    simp [← String.toList_inj]
  apply parse_block (isQuiet_contentLines h k) (dropBlankEnds_contentLines name k)
  rw [contentLines, ofContent?_described hsolid hhead (line?_tagLine h hne k) htext, hdescription,
    comment]

end

end TemplateKind

section
variable {m : Method}

theorem Text.mapCase_ne_nil {expansions : List (Nat × List Nat)} (h : ∀ e ∈ expansions, e.2 ≠ [])
    (runs : List CaseRun) (c : Char) : mapCase runs expansions c ≠ [] := by
  unfold mapCase
  split
  · exact List.cons_ne_nil _ _
  · cases hlookup : expansions.lookup c.toNat with
    | none => exact List.cons_ne_nil _ _
    | some image =>
      obtain ⟨before, after, hsplit, -⟩ := List.lookup_eq_some_iff.1 hlookup
      have hne : image ≠ [] := h (c.toNat, image) (by simp [hsplit])
      simpa using hne

theorem Text.lowerChar_ne_nil (c : Char) : lowerChar c ≠ [] := by
  unfold lowerChar
  split
  · exact List.cons_ne_nil _ _
  · exact mapCase_ne_nil (by decide) lowerRuns c

namespace Accessor

theorem decapitalize_ne_nil (first : Char) (rest : List Char) : decapitalize first rest ≠ [] := by
  have hfirst := lowerChar_ne_nil first
  unfold decapitalize
  split
  · exact hfirst
  · split
    · exact List.cons_ne_nil _ _
    · exact List.append_ne_nil_of_left_ne_nil hfirst _

theorem propertyAfter_ne_empty {lead name property : String}
    (h : propertyAfter lead name = some property) : property ≠ "" := by
  unfold propertyAfter at h
  split at h
  · next first rest _ =>
    split at h
    · cases h
      have hne := decapitalize_ne_nil first rest
      simpa [← String.toList_inj] using hne
    · cases h
  · cases h

end Accessor

open Accessor

namespace Method

theorem getterProperty_named {p : Property} (h : m.getterProperty = some p) :
    ∃ lead, propertyAfter lead m.name = some p.name := by
  simp only [getterProperty] at h
  split at h
  · split at h
    · cases h
    · obtain ⟨n, hn, rfl⟩ := Option.map_eq_some_iff.1 h
      rcases Option.or_eq_some_iff.1 hn with hget | ⟨-, his⟩
      · exact ⟨_, hget⟩
      · split at his
        · exact ⟨_, his⟩
        · cases his
  · cases h

theorem setterProperty_named {p : Property} (h : m.setterProperty = some p) :
    ∃ lead, propertyAfter lead m.name = some p.name := by
  unfold setterProperty at h
  split at h
  · split at h
    · obtain ⟨n, hn, rfl⟩ := Option.map_eq_some_iff.1 h
      exact ⟨_, hn⟩
    · cases h
  · cases h

theorem property_name_ne_empty {p : Property} (h : m.property = some p) : p.name ≠ "" := by
  obtain ⟨r, hr, hbind⟩ := List.exists_of_findSome?_eq_some h
  have hnamed : ∃ lead, propertyAfter lead m.name = some p.name := by
    rcases List.mem_pair.1 hr with rfl | rfl
    · exact getterProperty_named hbind
    · exact setterProperty_named hbind
  obtain ⟨lead, hlead⟩ := hnamed
  exact propertyAfter_ne_empty hlead

end Method

end

section
variable {c : ClassModel} {i : Nat} {m : Method}

theorem generate_one {template projectName text : String} (overwrite : Bool)
    (hm : c.methods[i]? = some m)
    (hrender : render template (.forMethod c m projectName) = .ok text) :
    generate c template projectName overwrite [i] =
      if m.comment ≠ none ∧ overwrite = false then { skipped := [i] }
      else { edits := [m.editWith i text] } := by
  have hskip : (m.hasComment && !overwrite) = true ↔ m.comment ≠ none ∧ overwrite = false := by
    simp [Method.hasComment, Option.isSome_iff_ne_none]
  have hgenerated : generateOne c template projectName overwrite i =
      if m.comment ≠ none ∧ overwrite = false then .skipped i else .edit (m.editWith i text) := by
    simp only [generateOne, hm, hrender, hskip]
    rfl
  rw [generate_cons, hgenerated]
  split <;> rfl

theorem exists_applyEdit_of_laidOut {text : String} (hm : c.methods[i]? = some m)
    (hparse : (DocComment.parse text).isOk) (hlayout : layout text = text) :
    ∃ d, c.applyEdit (m.editWith i text) = (.ok (), d) ∧ d.reformat i = (.ok (), d) ∧
      d.methods[i]? = some { m with comment := some text } := by
  have happly : c.applyEdit (m.editWith i text) = (.ok (), { c with
      methods := c.methods.modify i ({ · with comment := some text }) }) :=
    ClassModel.applyEdit_eq_ok_iff.2 ⟨m, hm, ⟨rfl, hparse⟩, rfl⟩
  refine ⟨_, happly, ?_, ?_⟩
  · have hreformat := ClassModel.reformat_of_applyEdit happly
    simpa only [Method.documentedBy, Method.editWith, hlayout] using hreformat
  · simp [hm]

/-- An accessor has a property. If its name is harmless, the default template can be rendered for
the accessor, and an edit comes of it unless there is a comment to be kept. The class takes the edit,
a layout leaves the text as it is, and the text is read as what the template says. -/
theorem default_template_works (k : TemplateKind) (projectName : String) (overwrite : Bool)
    (hm : c.methods[i]? = some m) (hkind : m.kind = k.accessorKind) :
    ∃ p, m.property = some p ∧ (IsHarmless p.name →
      ∃ text, render k.default (.forMethod c m projectName) = .ok text ∧
        generate c k.default projectName overwrite [i] =
          (if m.comment ≠ none ∧ overwrite = false then { skipped := [i] }
          else { edits := [m.editWith i text] }) ∧
        (∃ d, c.applyEdit (m.editWith i text) = (.ok (), d) ∧ d.reformat i = (.ok (), d) ∧
          d.methods[i]? = some { m with comment := some text }) ∧
        DocComment.parse text = .ok (k.comment p.name)) := by
  have haccessor : m.kind ≠ .other := by
    rw [hkind]
    cases k <;> decide
  obtain ⟨p, hp⟩ := Option.ne_none_iff_exists'.1 (Method.kind_ne_other_iff.1 haccessor).2
  refine ⟨p, hp, fun hharmless => ⟨block (k.contentLines p.name), ?_⟩⟩
  have hfield : (Context.forMethod c m projectName).field = some p.name := by
    simp [Context.forMethod, hp]
  have hrender := k.render_default hfield
  have hparse := k.parse_default hharmless (Method.property_name_ne_empty hp)
  have hlayout : layout (block (k.contentLines p.name)) = block (k.contentLines p.name) :=
    layout_block (k.isQuiet_contentLines hharmless) (k.dropBlankEnds_contentLines p.name)
      (List.cons_ne_nil _ _)
  have hok : (DocComment.parse (block (k.contentLines p.name))).isOk := by rw [hparse]; rfl
  exact ⟨hrender, generate_one overwrite hm hrender, exists_applyEdit_of_laidOut hm hok hlayout,
    hparse⟩

theorem default_template_works_punctuated :
    let m : Method :=
      { name := "setÄ$*{b}/@", parameters := [⟨"b", " int "⟩], comment := some "/** Old. */" }
    let c : ClassModel := { methods := [{ name := "getBar" }, m] }
    c.methods[1]? = some m ∧ m.kind = .setter ∧ m.property = some ⟨"ä$*{b}/@", "int"⟩ ∧
      IsHarmless "ä$*{b}/@" ∧
      ∃ text, generate c TemplateKind.setter.default "" true [1] =
          { edits := [⟨1, "setÄ$*{b}/@", text, .replace⟩] } ∧
        (∃ d, c.applyEdit ⟨1, "setÄ$*{b}/@", text, .replace⟩ = (.ok (), d) ∧
          d.reformat 1 = (.ok (), d) ∧
          d.methods[1]? = some { m with comment := some text }) ∧
        DocComment.parse text = .ok ⟨"Setter for field ä$*{b}/@.",
          [⟨"param", some "ä$*{b}/@", "the value to set for the field."⟩]⟩ := by
  intro m c
  have hkind : m.kind = .setter := by decide +kernel
  have hproperty : m.property = some ⟨"ä$*{b}/@", "int"⟩ := by decide +kernel
  have hharmless : IsHarmless "ä$*{b}/@" := by decide
  obtain ⟨p, hp, hworks⟩ := default_template_works (c := c) (i := 1) .setter "" true rfl hkind
  obtain rfl : p = ⟨"ä$*{b}/@", "int"⟩ := Option.some.inj (hp.symm.trans hproperty)
  obtain ⟨text, -, hgenerate, happly, hparse⟩ := hworks hharmless
  have hoverwrite : ¬ (m.comment ≠ none ∧ true = false) := by decide
  rw [if_neg hoverwrite] at hgenerate
  exact ⟨rfl, hkind, hproperty, hharmless, text, hgenerate, happly, hparse⟩

end

end BeanDoc
