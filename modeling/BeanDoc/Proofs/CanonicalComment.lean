import BeanDoc.Proofs.LayoutMeaning
import Mathlib.Data.List.Induction

/-! The canonical form of a comment: one decorated line for each line of the description, then the
tags, each from a line of its own on. What is written in this form is read back as it was, for all
comments that can be read at all. -/

namespace BeanDoc

open Text

def DocComment.textLines (text : String) : List (List Char) :=
  if text = "" then [] else pieces '\n' text.toList

open DocComment

namespace BlockTag

/-- How many lines of the text stand behind the name. There are none where the first word would be
taken for what the tag is about. -/
def opening (t : BlockTag) : Nat :=
  if t.argument = none ∧ (t.name = "throws" ∨ t.name = "exception") then 0 else 1

def lines (t : BlockTag) : List (List Char) :=
  join [' '] (('@' :: t.name.toList) :: (t.argument.map String.toList).toList ++
    (textLines t.text).take t.opening) :: (textLines t.text).drop t.opening

def parts (t : BlockTag) : List (List Char) :=
  t.name.toList :: (t.argument.map String.toList).toList ++ [t.text.toList]

end BlockTag

namespace DocComment

def lines (c : DocComment) : List (List Char) :=
  textLines c.description ++ c.tags.flatMap BlockTag.lines

def starred (l : List Char) : List Char :=
  [' ', '*', ' '] ++ l ++ ['\n']

def print (c : DocComment) : String :=
  String.ofList (['/', '*', '*', '\n'] ++ c.lines.flatMap starred ++ [' ', '*', '/'])

def parts (c : DocComment) : List (List Char) :=
  c.description.toList :: c.tags.flatMap BlockTag.parts

/-- All that the comment says, each text on lines of its own. -/
def whole (c : DocComment) : List Char :=
  join ['\n'] c.parts

structure IsNormalText (text : String) : Prop where
  trimmed : trim text.toList = text.toList
  lines : ∀ l ∈ textLines text, trim l = l

end DocComment

structure BlockTag.IsNormal (t : BlockTag) : Prop where
  name : t.name ≠ "" ∧ ∀ c ∈ t.name.toList, isAlphanumeric c = true
  needed : t.name = "param" → t.argument ≠ none
  allowed : t.argument ≠ none → t.name = "param" ∨ t.name = "throws" ∨ t.name = "exception"
  argument : ∀ a, t.argument = some a → a ≠ "" ∧ ∀ c ∈ a.toList, isBlank c = false
  text : IsNormalText t.text
  continued : ∀ l ∈ (textLines t.text).tail, l.head? ≠ some '@'
  below : t.argument = none → t.name = "throws" ∨ t.name = "exception" →
    ∀ l ∈ textLines t.text, l.head? ≠ some '@'

structure DocComment.IsNormal (c : DocComment) : Prop where
  description : IsNormalText c.description
  untagged : ∀ l ∈ textLines c.description, l.head? ≠ some '@'
  tags : ∀ t ∈ c.tags, t.IsNormal
  noTerminator : ¬ ['*', '/'] <:+: c.whole
  inlineTags : ∀ pre post, c.whole = pre ++ '{' :: '@' :: post → '}' ∈ post

namespace DocComment

theorem join_textLines (text : String) : join ['\n'] (textLines text) = text.toList := by
  unfold textLines
  split
  · next h => rw [h]; rfl
  · exact join_pieces '\n' text.toList

theorem mem_textLines {text : String} {l : List Char} (h : l ∈ textLines text) :
    l <:+: text.toList ∧ '\n' ∉ l := by
  unfold textLines at h
  split at h
  · simp at h
  · exact mem_pieces h

theorem joinLines_textLines {text : String} (h : IsNormalText text) :
    joinLines (textLines text) = text.toList := by
  rw [joinLines, join_textLines, h.trimmed]

theorem solid_of_take_textLines {text : String} (h : IsNormalText text) {n : Nat} (hn : n ≤ 1) :
    ∀ l ∈ (textLines text).take n, Solid l := by
  intro l hl
  have hmem : l ∈ textLines text := List.mem_of_mem_take hl
  refine Solid.of_trim ?_ (h.lines l hmem)
  rintro rfl
  have htext := join_textLines text
  cases hls : textLines text with
  | nil => simp [hls] at hmem
  | cons first more =>
    have hfirst : first = [] := by
      have htake := List.take_subset_take_left (first :: more) hn
      rw [hls] at hl
      exact (List.mem_singleton.1 (htake hl)).symm
    subst hfirst
    -- a text with an empty first line is empty, and then has no line, or begins with a line feed
    cases more with
    | nil =>
      have hempty : text = "" := String.toList_eq_nil_iff.1 (by rw [← htext, hls]; rfl)
      simp [textLines, hempty] at hls
    | cons k more =>
      rw [hls, join_cons_of_ne_nil (List.cons_ne_nil k more)] at htext
      have htrim := h.trimmed.trans htext.symm
      exact absurd (not_blank_of_trim_eq_cons htrim) (by decide)

section
variable {ls : List (List Char)} {b : Bool}

theorem leavesOpen_join {s : Char} (hs : isBlank s = true) :
    leavesOpen b (join [s] ls) = ls.foldl leavesOpen b := by
  induction ls generalizing b with
  | nil => rfl
  | cons l ls ih =>
    cases ls with
    | nil => rfl
    | cons k ls =>
      have hat : s ≠ '@' := by rintro rfl; simp [isBlank] at hs
      have hblank : allBlank [s] = true := by simp [allBlank, hs]
      have hrest := leavesOpen_blank_append hblank (leavesOpen b l) (join [s] (k :: ls))
      rw [join_cons_of_ne_nil (List.cons_ne_nil k ls), List.append_assoc,
        leavesOpen_append (by simpa using hat), hrest, ih]
      rfl

theorem leavesOpen_text (text : String) :
    leavesOpen b text.toList = (textLines text).foldl leavesOpen b := by
  rw [← join_textLines, leavesOpen_join isBlank_newline]

theorem isChain_join {s : Char} (hstar : s ≠ '*') (hslash : s ≠ '/')
    (h : ∀ l ∈ ls, l.IsChain (Apart '*' '/')) : (join [s] ls).IsChain (Apart '*' '/') := by
  induction ls with
  | nil => exact List.isChain_nil
  | cons l ls ih =>
    have hl := h l List.mem_cons_self
    cases ls with
    | nil => exact hl
    | cons k ls =>
      rw [join_cons_of_ne_nil (List.cons_ne_nil k ls), List.append_assoc]
      have hrest := ih fun m hm => h m (List.mem_cons_of_mem l hm)
      exact isChain_append_separator hstar hslash hl hrest

theorem solid_join {s : Char} (hne : ls ≠ []) (h : ∀ l ∈ ls, Solid l) : Solid (join [s] ls) := by
  induction ls with
  | nil => exact absurd rfl hne
  | cons l ls ih =>
    have hl := h l List.mem_cons_self
    cases ls with
    | nil => exact hl
    | cons k ls =>
      rw [join_cons_of_ne_nil (List.cons_ne_nil k ls)]
      exact hl.append (ih (List.cons_ne_nil k ls) fun m hm => h m (List.mem_cons_of_mem l hm)) [s]

theorem trim_join {s : Char} (h : ∀ l ∈ ls, Solid l) : trim (join [s] ls) = join [s] ls := by
  cases ls with
  | nil => rfl
  | cons l ls => exact (solid_join (List.cons_ne_nil l ls) h).trim_eq_self

theorem cutWhere_join {w : List Char} (h : ∀ c ∈ w, isBlank c = false) :
    cutWhere isBlank (join [' '] (w :: ls)) = (w, join [' '] ls) := by
  cases ls with
  | nil => exact cutWhere_of_none h
  | cons l ls =>
    rw [join_cons_of_ne_nil (List.cons_ne_nil l ls), List.append_assoc]
    exact cutWhere_append h isBlank_space _

end

section
variable {name : List Char} {argument : Option (List Char)} {ws : List (List Char)}

theorem solid_words (hname : isTagName name = true)
    (hargument : ∀ a, argument = some a → a ≠ [] ∧ ∀ c ∈ a, isBlank c = false)
    (hws : ∀ w ∈ ws, Solid w) : ∀ w ∈ ('@' :: name) :: argument.toList ++ ws, Solid w := by
  intro w hw
  rcases List.mem_append.1 hw with hw | hw
  · rcases List.mem_cons.1 hw with rfl | hw
    · refine .of_not_blank (List.cons_ne_nil _ _) fun c hc => ?_
      rcases List.mem_cons.1 hc with rfl | hc
      · decide
      · exact (not_blank_of_isTagName hname).2 c hc
    · obtain ⟨hne, hchars⟩ := hargument w (Option.mem_toList.1 hw)
      exact .of_not_blank hne hchars
  · exact hws w hw

theorem line?_first_line (hname : isTagName name = true)
    (hargument : ∀ a, argument = some a → a ≠ [] ∧ ∀ c ∈ a, isBlank c = false)
    (hws : ∀ w ∈ ws, Solid w) (hallowed : argument ≠ none → takesArgument name = true)
    (hnone : argument = none → takesArgument name = true → ws = [] ∧ needsArgument name = false) :
    line? (join [' '] (('@' :: name) :: argument.toList ++ ws)) =
      some (.tag name argument (join [' '] ws)) := by
  have hblank := (not_blank_of_isTagName hname).2
  have hsolid := solid_words hname hargument hws
  have hwords : ∀ w ∈ argument.toList ++ ws, Solid w :=
    fun w hw => hsolid w (List.mem_cons_of_mem _ hw)
  rw [List.cons_append] at hsolid ⊢
  have hsource : trim (join [' '] (('@' :: name) :: (argument.toList ++ ws))) =
      '@' :: join [' '] (name :: (argument.toList ++ ws)) := by
    rw [trim_join hsolid]
    cases argument.toList ++ ws <;> rfl
  rw [line?_of_tag hsource, readTag_toOption, cutWhere_join hblank]
  dsimp only
  rw [trim_join hwords, hname]
  cases argument with
  | none =>
    cases htakes : takesArgument name with
    | false => rfl
    | true =>
      obtain ⟨rfl, hneeds⟩ := hnone rfl htakes
      rw [hneeds]
      rfl
  | some a =>
    obtain ⟨ha, hchars⟩ := hargument a rfl
    have hcut : cutWhere isBlank (join [' '] (a :: ws)) = (a, join [' '] ws) := cutWhere_join hchars
    have hrest : join [' '] (a :: ws) ≠ [] :=
      (solid_join (List.cons_ne_nil a ws) hwords).ne_nil
    rw [hallowed (by simp)]
    show (if join [' '] (a :: ws) = [] then _ else _) = _
    rw [if_neg hrest]
    show some (Line.tag name (some (cutWhere isBlank (join [' '] (a :: ws))).1)
      (trim (cutWhere isBlank (join [' '] (a :: ws))).2)) = _
    rw [hcut, trim_join hws]

end

theorem mapM_line?_text {ls : List (List Char)} (h : ∀ l ∈ ls, trim l = l ∧ l.head? ≠ some '@') :
    ls.mapM line? = some (ls.map Line.text) := by
  induction ls with
  | nil => rfl
  | cons l ls ih =>
    obtain ⟨htrim, hhead⟩ := h l List.mem_cons_self
    have hline : line? l = some (.text l) := by
      rw [line?_of_text (by rwa [htrim]), htrim]
    rw [List.mapM_cons, hline, ih fun k hk => h k (List.mem_cons_of_mem l hk)]
    rfl

theorem gather_text_append (ls : List (List Char)) (rest : List Line) :
    gather (ls.map Line.text ++ rest) = (ls ++ (gather rest).1, (gather rest).2) := by
  induction ls with
  | nil => rfl
  | cons l ls ih => rw [List.map_cons, List.cons_append, gather, ih]; rfl

theorem takesArgument_iff (name : String) : takesArgument name.toList = true ↔
    name = "param" ∨ name = "throws" ∨ name = "exception" := by
  simp only [takesArgument, List.contains_iff_mem, List.mem_cons, List.not_mem_nil, or_false,
    ← String.toList_inj]
  rfl

theorem needsArgument_iff (name : String) : needsArgument name.toList = true ↔ name = "param" := by
  rw [needsArgument, beq_iff_eq, ← String.toList_inj]
  rfl

end DocComment

namespace BlockTag

variable {t : BlockTag}

def content (t : BlockTag) : List Line :=
  .tag t.name.toList (t.argument.map String.toList) (join [' '] ((textLines t.text).take t.opening))
    :: ((textLines t.text).drop t.opening).map Line.text

theorem opening_le (t : BlockTag) : t.opening ≤ 1 := by
  unfold opening
  split <;> decide

theorem IsNormal.isTagName (h : t.IsNormal) : isTagName t.name.toList = true := by
  obtain ⟨hne, hall⟩ := h.name
  simpa [DocComment.isTagName, hne] using hall

theorem IsNormal.argument_toList (h : t.IsNormal) :
    ∀ a, t.argument.map String.toList = some a → a ≠ [] ∧ ∀ c ∈ a, isBlank c = false := by
  intro a ha
  obtain ⟨a, harg, rfl⟩ := Option.map_eq_some_iff.1 ha
  obtain ⟨hne, hblank⟩ := h.argument a harg
  exact ⟨fun hnil => hne (String.toList_eq_nil_iff.1 hnil), hblank⟩

theorem mapM_line?_lines (h : t.IsNormal) : t.lines.mapM line? = some t.content := by
  have hfirst : line? (join [' '] (('@' :: t.name.toList) ::
      (t.argument.map String.toList).toList ++ (textLines t.text).take t.opening)) =
      some (.tag t.name.toList (t.argument.map String.toList)
        (join [' '] ((textLines t.text).take t.opening))) := by
    refine line?_first_line h.isTagName h.argument_toList
      (solid_of_take_textLines h.text t.opening_le) ?_ ?_
    · intro hsome
      exact (takesArgument_iff _).2 (h.allowed fun hnone => hsome (by rw [hnone]; rfl))
    · intro hnone htakes
      have harg : t.argument = none := Option.map_eq_none_iff.1 hnone
      have hparam : t.name ≠ "param" := fun hname => h.needed hname harg
      have hother := ((takesArgument_iff _).1 htakes).resolve_left hparam
      refine ⟨by rw [opening, if_pos ⟨harg, hother⟩, List.take_zero], ?_⟩
      rw [Bool.eq_false_iff, Ne, needsArgument_iff]
      exact hparam
  have hmore : ((textLines t.text).drop t.opening).mapM line? =
      some (((textLines t.text).drop t.opening).map Line.text) := by
    refine mapM_line?_text fun l hl => ⟨h.text.lines l (List.mem_of_mem_drop hl), ?_⟩
    unfold opening at hl
    split at hl
    · next hnone => exact h.below hnone.1 hnone.2 l (List.mem_of_mem_drop hl)
    · exact h.continued l (by rwa [List.drop_one] at hl)
  rw [lines, List.mapM_cons, hfirst, hmore]
  rfl

theorem joinLines_opening (t : BlockTag) :
    joinLines (join [' '] ((textLines t.text).take t.opening) ::
      (textLines t.text).drop t.opening) = joinLines (textLines t.text) := by
  unfold opening
  split
  · exact joinLines_nil_cons (textLines t.text)
  · cases textLines t.text with
    | nil => rfl
    | cons l ls => rfl

theorem gather_content {tags : List BlockTag} (h : ∀ t ∈ tags, t.IsNormal) :
    gather (tags.flatMap content) = ([], tags) := by
  induction tags with
  | nil => rfl
  | cons t tags ih =>
    have hrest := ih fun u hu => h u (List.mem_cons_of_mem t hu)
    have htext := joinLines_textLines (h t List.mem_cons_self).text
    have hargument : (t.argument.map String.toList).map String.ofList = t.argument := by
      cases t.argument <;> simp
    rw [List.flatMap_cons, content, List.cons_append, gather, gather_text_append, hrest]
    simp only [List.append_nil, joinLines_opening, htext, hargument, String.ofList_toList]

theorem foldl_leavesOpen_lines (b : Bool) (t : BlockTag) :
    t.lines.foldl leavesOpen b = t.parts.foldl leavesOpen b := by
  have hfirst : ∀ ws, leavesOpen b (join [' '] (('@' :: t.name.toList) :: ws)) =
      ws.foldl leavesOpen (leavesOpen b t.name.toList) := by
    intro ws
    rw [leavesOpen_join isBlank_space, List.foldl_cons, leavesOpen_cons (by decide) (by decide)]
  rw [lines, List.foldl_cons, List.cons_append, hfirst, ← List.foldl_append, List.append_assoc,
    List.take_append_drop, parts, List.cons_append, List.foldl_cons, List.foldl_append,
    List.foldl_append, List.foldl_cons, leavesOpen_text t.text, List.foldl_nil]

end BlockTag

namespace DocComment

variable {c : DocComment}

theorem ofContent?_lines (h : c.IsNormal) : ofContent? c.lines = some c := by
  have hdescription : (textLines c.description).mapM line? =
      some ((textLines c.description).map Line.text) :=
    mapM_line?_text fun l hl => ⟨h.description.lines l hl, h.untagged l hl⟩
  have htags : ∀ tags : List BlockTag, (∀ t ∈ tags, t.IsNormal) →
      (tags.flatMap BlockTag.lines).mapM line? = some (tags.flatMap BlockTag.content) := by
    intro tags hnormal
    induction tags with
    | nil => rfl
    | cons t tags ih =>
      have hfirst := BlockTag.mapM_line?_lines (hnormal t List.mem_cons_self)
      have hrest := ih fun u hu => hnormal u (List.mem_cons_of_mem t hu)
      rw [List.flatMap_cons, List.mapM_append, hfirst, hrest]
      rfl
  have hgather := gather_text_append (textLines c.description) (c.tags.flatMap BlockTag.content)
  rw [BlockTag.gather_content h.tags, List.append_nil] at hgather
  rw [ofContent?, lines, List.mapM_append, hdescription, htags c.tags h.tags]
  simp only [Option.bind_eq_bind, Option.bind_some, Option.pure_def,
    Option.map_some, ofLines, hgather, joinLines_textLines h.description, String.ofList_toList]

theorem foldl_leavesOpen_lines (b : Bool) (c : DocComment) :
    c.lines.foldl leavesOpen b = c.parts.foldl leavesOpen b := by
  have htags : ∀ (tags : List BlockTag) (b : Bool),
      (tags.flatMap BlockTag.lines).foldl leavesOpen b =
        (tags.flatMap BlockTag.parts).foldl leavesOpen b := by
    intro tags
    induction tags with
    | nil => exact fun _ => rfl
    | cons t tags ih =>
      intro b
      rw [List.flatMap_cons, List.foldl_append, BlockTag.foldl_leavesOpen_lines, ih,
        List.flatMap_cons, List.foldl_append]
  rw [lines, List.foldl_append, ← leavesOpen_text, htags, parts, List.foldl_cons]

/-- What a printed line has to be for the reader to find it again. -/
structure IsPlainLine (l : List Char) : Prop where
  trimmed : trim l = l
  newline : '\n' ∉ l
  noTerminator : l.IsChain (Apart '*' '/')

theorem isPlainLine_of_mem_textLines {text : String} (h : IsNormalText text)
    (hchain : text.toList.IsChain (Apart '*' '/')) {l : List Char} (hl : l ∈ textLines text) :
    IsPlainLine l := by
  obtain ⟨hpart, hnot⟩ := mem_textLines hl
  exact ⟨h.lines l hl, hnot, hchain.infix hpart⟩

theorem not_mem_join {a s : Char} {ls : List (List Char)} (hs : a ≠ s) (h : ∀ l ∈ ls, a ∉ l) :
    a ∉ join [s] ls := by
  induction ls with
  | nil => exact List.not_mem_nil
  | cons l ls ih =>
    have hl := h l List.mem_cons_self
    cases ls with
    | nil => exact hl
    | cons k ls =>
      have hrest := ih fun m hm => h m (List.mem_cons_of_mem l hm)
      rw [join_cons_of_ne_nil (List.cons_ne_nil k ls)]
      simp [hl, hs, hrest]

theorem newline_not_mem {w : List Char} (h : ∀ c ∈ w, isBlank c = false) : '\n' ∉ w :=
  fun hmem => absurd (h '\n' hmem) (by decide)

theorem isPlainLine_of_mem_lines {t : BlockTag} (h : t.IsNormal)
    (hchain : ∀ p ∈ t.parts, p.IsChain (Apart '*' '/')) {l : List Char} (hl : l ∈ t.lines) :
    IsPlainLine l := by
  have htext : ∀ k ∈ textLines t.text, IsPlainLine k :=
    fun k hk => isPlainLine_of_mem_textLines h.text (hchain _ (by simp [BlockTag.parts])) hk
  rcases List.mem_cons.1 hl with rfl | hl
  · have hsolid := solid_words h.isTagName h.argument_toList
      (solid_of_take_textLines h.text t.opening_le)
    have hwords : ∀ w ∈ ('@' :: t.name.toList) :: (t.argument.map String.toList).toList ++
        (textLines t.text).take t.opening, '\n' ∉ w ∧ w.IsChain (Apart '*' '/') := by
      intro w hw
      rcases List.mem_append.1 hw with hw | hw
      · rcases List.mem_cons.1 hw with rfl | hw
        · have hname := newline_not_mem (not_blank_of_isTagName h.isTagName).2
          have hpart := hchain t.name.toList List.mem_cons_self
          exact ⟨by simpa using hname,
            isChain_append_separator (by decide) (by decide) List.isChain_nil hpart⟩
        · obtain ⟨-, hblank⟩ := h.argument_toList w (Option.mem_toList.1 hw)
          refine ⟨newline_not_mem hblank, hchain w ?_⟩
          exact List.mem_append_left _ (List.mem_cons_of_mem _ hw)
      · have hplain := htext w (List.mem_of_mem_take hw)
        exact ⟨hplain.newline, hplain.noTerminator⟩
    exact ⟨trim_join hsolid, not_mem_join (by decide) fun w hw => (hwords w hw).1,
      isChain_join (by decide) (by decide) fun w hw => (hwords w hw).2⟩
  · exact htext l (List.mem_of_mem_drop hl)

theorem undecorate_starred (l : List Char) : undecorate ([' ', '*', ' '] ++ l) = l := by
  have hspaced : Decorated ([' '] ++ '*' :: ' ' :: l) l := .spaced (by decide)
  exact hspaced.undecorate_eq

theorem dropReturn_starred {l : List Char} (h : trim l = l) :
    dropReturn ([' ', '*', ' '] ++ l) = [' ', '*', ' '] ++ l := by
  cases l with
  | nil => decide
  | cons c cs =>
    have hc : isBlank c = false := not_blank_of_trim_eq_cons h
    have hblank : allBlank (c :: cs) = false := by simp [allBlank, hc]
    have hdecoration : decoration (c :: cs) = [' ', '*', ' '] ++ c :: cs := by
      rw [decoration, hblank]
      rfl
    have hend : trimEnd (c :: cs) = c :: cs := by
      rwa [trim, trimStart_cons_of_not_blank hc] at h
    rw [← hdecoration, dropReturn_decoration hend]

theorem contentLines_starred {ls : List (List Char)} (h : ∀ l ∈ ls, IsPlainLine l) :
    contentLines (ls.flatMap starred ++ [' ']) = ls ++ [[]] := by
  have hlines : ∀ l ∈ ls, '\n' ∉ [' ', '*', ' '] ++ l ∧
      dropReturn ([' ', '*', ' '] ++ l) = [' ', '*', ' '] ++ l := by
    intro l hl
    exact ⟨by simpa using (h l hl).newline, dropReturn_starred (h l hl).trimmed⟩
  have hcontent := contentLines_flatMap hlines
  simp only [undecorate_starred, List.map_id'] at hcontent
  exact hcontent

theorem leavesOpen_whole (b : Bool) (c : DocComment) :
    leavesOpen b c.whole = c.parts.foldl leavesOpen b :=
  leavesOpen_join isBlank_newline

theorem leavesOpen_whole_eq_false_iff : leavesOpen false c.whole = false ↔
    ∀ pre post, c.whole = pre ++ '{' :: '@' :: post → '}' ∈ post := by
  rw [Bool.eq_false_iff, Ne, leavesOpen_eq_true_iff]
  simp

theorem isPlainLine_lines (h : c.IsNormal) : ∀ l ∈ c.lines, IsPlainLine l := by
  have hwhole := isChain_apart_iff.2 h.noTerminator
  have hchain : ∀ p ∈ c.parts, p.IsChain (Apart '*' '/') :=
    fun p hp => hwhole.infix (mem_join_isInfix hp)
  intro l hl
  rcases List.mem_append.1 hl with hl | hl
  · exact isPlainLine_of_mem_textLines h.description (hchain _ List.mem_cons_self) hl
  · obtain ⟨t, ht, hl⟩ := List.mem_flatMap.1 hl
    refine isPlainLine_of_mem_lines (h.tags t ht) (fun p hp => hchain p ?_) hl
    exact List.mem_cons_of_mem _ (List.mem_flatMap.2 ⟨t, ht, hp⟩)

theorem parse_print (h : c.IsNormal) : parse c.print = .ok c := by
  have hprint : c.print.toList =
      ['/', '*', '*'] ++ ('\n' :: (c.lines.flatMap starred ++ [' '])) ++ ['*', '/'] := by
    simp [print]
  have hplain := isPlainLine_lines h
  have hcontent : contentLines ('\n' :: (c.lines.flatMap starred ++ [' '])) =
      [] :: c.lines ++ [[]] := by
    have hlines := contentLines_starred hplain
    have hfirst := lines_append_newline (l := []) (by simp) (c.lines.flatMap starred ++ [' '])
    rw [List.nil_append] at hfirst
    rw [contentLines] at hlines ⊢
    rw [hfirst, List.map_cons, hlines]
    rfl
  refine parse_eq_ok_iff.2 ⟨_, by rw [hprint, body_block], ?_, ?_, ?_⟩
  · rw [occurs_pair_eq_false_iff]
    refine isChain_append_separator (by decide) (by decide) List.isChain_nil ?_
    exact isChain_flatMap fun l hl => isChain_starred (hplain l hl).noTerminator
  · rw [leavesOpen_contentLines, hcontent, List.cons_append, List.foldl_cons, List.foldl_append,
      leavesOpen, foldl_leavesOpen_lines, ← leavesOpen_whole]
    exact leavesOpen_whole_eq_false_iff.2 h.inlineTags
  · rw [hcontent, ofContent?_append_blank rfl, ofContent?_blank_cons rfl, ofContent?_lines h]

end DocComment

end BeanDoc
