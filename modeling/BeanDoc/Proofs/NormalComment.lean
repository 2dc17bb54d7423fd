import BeanDoc.Proofs.CanonicalComment

/-! The comments that can be read are the normal ones, those that have a canonical form. Each line
that is read is normal in the same sense, and gathering the lines keeps it. -/

namespace BeanDoc.DocComment

open Text

theorem leavesOpen_cutWhere (b : Bool) (cs : List Char) : leavesOpen b cs =
    leavesOpen (leavesOpen b (cutWhere isBlank cs).1) (trim (cutWhere isBlank cs).2) := by
  rcases (cutWhere_cases isBlank cs).2 with ⟨hfst, hsnd⟩ | ⟨s, hs, hcs⟩
  · rw [← hfst, hsnd]
    rfl
  · have hat : s ≠ '@' := by rintro rfl; simp [isBlank] at hs
    have hblank : allBlank [s] = true := by simp [allBlank, hs]
    have hrest := leavesOpen_blank_append hblank (leavesOpen b (cutWhere isBlank cs).1)
      (cutWhere isBlank cs).2
    conv_lhs => rw [hcs]
    rw [leavesOpen_append (by simpa using hat), leavesOpen_trim]
    exact hrest

theorem leavesOpen_joinLines (b : Bool) (ls : List (List Char)) :
    leavesOpen b (joinLines ls) = ls.foldl leavesOpen b := by
  rw [joinLines, leavesOpen_trim, leavesOpen_join isBlank_newline]

namespace Line

def parts : Line → List (List Char)
  | .text content => [content]
  | .tag name argument content => name :: argument.toList ++ [content]

def IsNormalContent (content : List Char) : Prop :=
  trim content = content ∧ '\n' ∉ content

def IsNormal : Line → Prop
  | .text content => IsNormalContent content ∧ content.head? ≠ some '@'
  | .tag name argument content =>
    isTagName name = true ∧ (needsArgument name = true → argument ≠ none) ∧
      (argument ≠ none → takesArgument name = true) ∧
      (∀ a, argument = some a → a ≠ [] ∧ ∀ c ∈ a, isBlank c = false) ∧
      (argument = none → takesArgument name = true → content = []) ∧ IsNormalContent content

end Line

/-- A line is read as a normal one, and nothing is lost of it but white space and the `@`. -/
structure ReadsAs (l : List Char) (line : Line) : Prop where
  normal : line.IsNormal
  parts : ∀ p ∈ line.parts, p <:+: l
  inlineTags : ∀ b, leavesOpen b l = line.parts.foldl leavesOpen b

theorem isNormalContent_trim {l : List Char} (h : '\n' ∉ l) : Line.IsNormalContent (trim l) :=
  ⟨trim_trim l, fun hmem => h ((trim_isInfix l).subset hmem)⟩

theorem readsAs_tag {l source : List Char} {line : Line} (hn : '\n' ∉ l)
    (hsource : trim l = '@' :: source) (h : (readTag 1 source).toOption = some line) :
    ReadsAs l line := by
  have hl : source <:+: l := by
    have hcons : source <:+: trim l := by
      rw [hsource]
      exact (List.suffix_cons '@' source).isInfix
    exact hcons.trans (trim_isInfix l)
  have hopen : ∀ b, leavesOpen b l = leavesOpen (leavesOpen b (cutWhere isBlank source).1)
      (trim (cutWhere isBlank source).2) := by
    intro b
    rw [← leavesOpen_trim, hsource, leavesOpen_cons (by decide) (by decide), leavesOpen_cutWhere]
  have hname : (cutWhere isBlank source).1 <:+: l := (cutWhere_fst_isPrefix _ _).isInfix.trans hl
  have hrest : trim (cutWhere isBlank source).2 <:+: l :=
    (trim_isInfix _).trans ((cutWhere_snd_isSuffix _ _).isInfix.trans hl)
  have hcontent : Line.IsNormalContent (trim (cutWhere isBlank source).2) :=
    ⟨trim_trim _, fun hmem => hn (hrest.subset hmem)⟩
  have hword := cutWhere_trim_eq_nil_iff (cutWhere isBlank source).2
  have hcases := readTag_cases h rfl rfl
  generalize (cutWhere isBlank source).1 = name at hcases hopen hname
  generalize trim (cutWhere isBlank source).2 = rest at hcases hopen hrest hcontent hword
  obtain ⟨htag, ⟨rfl, hneeds, hempty⟩ | ⟨rfl, htakes, hnil⟩⟩ := hcases
  · refine ⟨⟨htag, by simp [hneeds], by simp, by simp, fun _ => hempty, hcontent⟩, ?_, hopen⟩
    simpa [Line.parts] using ⟨hname, hrest⟩
  · have hargument : (cutWhere isBlank rest).1 <:+: l :=
      (cutWhere_fst_isPrefix _ _).isInfix.trans hrest
    have htext : trim (cutWhere isBlank rest).2 <:+: l :=
      (trim_isInfix _).trans ((cutWhere_snd_isSuffix _ _).isInfix.trans hrest)
    refine ⟨⟨htag, by simp, fun _ => htakes, ?_, by simp, trim_trim _,
      fun hmem => hn (htext.subset hmem)⟩, ?_, fun b => ?_⟩
    · rintro a ⟨⟩
      exact ⟨fun hempty => hnil (hword.1 hempty), (cutWhere_cases isBlank rest).1⟩
    · simpa [Line.parts] using ⟨hname, hargument, htext⟩
    · rw [hopen, leavesOpen_cutWhere]
      rfl

theorem readsAs_of_line? {l : List Char} {line : Line} (hn : '\n' ∉ l) (h : line? l = some line) :
    ReadsAs l line := by
  by_cases hat : (trim l).head? = some '@'
  · obtain ⟨source, hsource⟩ := List.head?_eq_some_iff.1 hat
    exact readsAs_tag hn hsource (by rwa [line?_of_tag hsource] at h)
  · rw [line?_of_text hat] at h
    obtain rfl := Option.some.inj h
    refine ⟨⟨isNormalContent_trim hn, hat⟩, ?_, fun b => (leavesOpen_trim b l).symm⟩
    simpa [Line.parts] using trim_isInfix l

section
variable {ks : List (List Char)}

theorem head_prefix_join {first : List Char} (h : ks.head? = some first) :
    first <+: join ['\n'] ks := by
  obtain ⟨rest, rfl⟩ := List.head?_eq_some_iff.1 h
  cases rest with
  | nil => exact List.prefix_refl first
  | cons k rest => exact ⟨['\n'] ++ join ['\n'] (k :: rest), by simp [join]⟩

theorem last_suffix_join {front : List (List Char)} {last : List Char} :
    last <:+ join ['\n'] (front ++ [last]) := by
  induction front with
  | nil => exact List.suffix_refl last
  | cons k front ih =>
    rw [List.cons_append, join_cons_of_ne_nil (by simp)]
    exact ih.trans (List.suffix_append _ _)

theorem textLines_joinLines_sublist (h : ∀ k ∈ ks, Line.IsNormalContent k) :
    (textLines (String.ofList (joinLines ks))).Sublist ks := by
  induction hn : ks.length using Nat.strong_induction_on generalizing ks with
  | _ n ih =>
    subst hn
    cases ks with
    | nil => decide
    | cons first rest =>
      by_cases hfirst : first = []
      · subst hfirst
        rw [joinLines_nil_cons]
        exact (ih rest.length (by simp) (fun k hk => h k (List.mem_cons_of_mem _ hk)) rfl).cons []
      · obtain ⟨front, last, hks⟩ :=
          List.eq_nil_or_concat' (first :: rest) |>.resolve_left (List.cons_ne_nil first rest)
        have hmem : last ∈ first :: rest := by simp [hks]
        by_cases hlast : last = []
        · subst hlast
          have hfront : ∀ k ∈ front, Line.IsNormalContent k :=
            fun k hk => h k (hks ▸ List.mem_append_left _ hk)
          have hsublist := ih front.length (by simp [hks]) hfront rfl
          rw [hks, joinLines_append_nil]
          exact hsublist.trans (List.sublist_append_left front _)
        · -- no line at an end is blank, so nothing is trimmed
          have hsolid : Solid (join ['\n'] (first :: rest)) := by
            refine .of_ends (head_prefix_join rfl) (hks ▸ last_suffix_join) ?_ ?_
            · exact .of_trim hfirst (h first List.mem_cons_self).1
            · exact .of_trim hlast (h last hmem).1
          have hne : String.ofList (join ['\n'] (first :: rest)) ≠ "" := by
            simpa using hsolid.ne_nil
          rw [joinLines, hsolid.trim_eq_self, textLines, if_neg hne, String.toList_ofList,
            pieces_join (List.cons_ne_nil first rest) fun k hk => (h k hk).2]

theorem isNormalText_joinLines (h : ∀ k ∈ ks, Line.IsNormalContent k) :
    IsNormalText (String.ofList (joinLines ks)) := by
  refine ⟨by rw [String.toList_ofList, joinLines, trim_trim], fun l hl => ?_⟩
  exact (h l ((textLines_joinLines_sublist h).subset hl)).1

end

theorem isNormal_of_tag_line {name content : List Char} {argument : Option (List Char)}
    {more : List (List Char)} (h : (Line.tag name argument content).IsNormal)
    (hmore : ∀ k ∈ more, (Line.text k).IsNormal) :
    BlockTag.IsNormal ⟨String.ofList name, argument.map String.ofList,
      String.ofList (joinLines (content :: more))⟩ := by
  obtain ⟨hname, hneeded, hallowed, hargument, hnone, hcontent⟩ := h
  have hlines : ∀ k ∈ content :: more, Line.IsNormalContent k := by
    intro k hk
    rcases List.mem_cons.1 hk with rfl | hk
    · exact hcontent
    · exact (hmore k hk).1
  have hsublist := textLines_joinLines_sublist hlines
  have htakes := takesArgument_iff (String.ofList name)
  have hneeds := needsArgument_iff (String.ofList name)
  rw [String.toList_ofList] at htakes hneeds
  refine ⟨?_, ?_, ?_, ?_, isNormalText_joinLines hlines, ?_, ?_⟩
  · simpa [isTagName] using hname
  · simpa [← hneeds] using hneeded
  · simpa [← htakes] using hallowed
  · intro a ha
    obtain ⟨w, hw, rfl⟩ := Option.map_eq_some_iff.1 ha
    simpa using hargument w hw
  · intro l hl
    exact (hmore l (hsublist.tail.subset hl)).2
  · intro hargument hother l hl
    have hempty := hnone (Option.map_eq_none_iff.1 hargument) (htakes.2 (.inr hother))
    rcases List.mem_cons.1 (hsublist.subset hl) with rfl | hl
    · simp [hempty]
    · exact (hmore l hl).2

theorem gather_normal {ls : List Line} (h : ∀ line ∈ ls, line.IsNormal) :
    (∀ k ∈ (gather ls).1, (Line.text k).IsNormal) ∧ ∀ t ∈ (gather ls).2, t.IsNormal := by
  induction ls with
  | nil => simp [gather]
  | cons line ls ih =>
    obtain ⟨hlead, htags⟩ := ih fun k hk => h k (List.mem_cons_of_mem line hk)
    have hline := h line List.mem_cons_self
    cases line with
    | text content => exact ⟨List.forall_mem_cons.2 ⟨hline, hlead⟩, htags⟩
    | tag name argument content =>
      exact ⟨by simp [gather], List.forall_mem_cons.2 ⟨isNormal_of_tag_line hline hlead, htags⟩⟩

theorem parts_of_tag_line (name text : List Char) (argument : Option (List Char)) :
    BlockTag.parts ⟨String.ofList name, argument.map String.ofList, String.ofList text⟩ =
      name :: argument.toList ++ [text] := by
  cases argument <;> simp [BlockTag.parts]

theorem isChain_joinLines {ks : List (List Char)} (h : ∀ k ∈ ks, k.IsChain (Apart '*' '/')) :
    (joinLines ks).IsChain (Apart '*' '/') := by
  have hjoin := isChain_join (s := '\n') (by decide) (by decide) h
  exact hjoin.infix (trim_isInfix _)

theorem gather_isChain {ls : List Line}
    (h : ∀ line ∈ ls, ∀ p ∈ line.parts, p.IsChain (Apart '*' '/')) :
    (∀ k ∈ (gather ls).1, k.IsChain (Apart '*' '/')) ∧
      ∀ t ∈ (gather ls).2, ∀ p ∈ t.parts, p.IsChain (Apart '*' '/') := by
  induction ls with
  | nil => simp [gather]
  | cons line ls ih =>
    obtain ⟨hlead, htags⟩ := ih fun k hk => h k (List.mem_cons_of_mem line hk)
    have hline := h line List.mem_cons_self
    cases line with
    | text content =>
      have hcontent := hline content List.mem_cons_self
      exact ⟨List.forall_mem_cons.2 ⟨hcontent, hlead⟩, htags⟩
    | tag name argument content =>
      refine ⟨by simp [gather], List.forall_mem_cons.2 ⟨fun p hp => ?_, htags⟩⟩
      rw [parts_of_tag_line] at hp
      rcases List.mem_append.1 hp with hp | hp
      · exact hline p (List.mem_append_left _ hp)
      · have hcontent := hline content (List.mem_append_right _ List.mem_cons_self)
        obtain rfl := List.mem_singleton.1 hp
        exact isChain_joinLines (List.forall_mem_cons.2 ⟨hcontent, hlead⟩)

theorem foldl_leavesOpen_gather (b : Bool) (ls : List Line) :
    (ls.flatMap Line.parts).foldl leavesOpen b =
      ((gather ls).2.flatMap BlockTag.parts).foldl leavesOpen
        ((gather ls).1.foldl leavesOpen b) := by
  induction ls generalizing b with
  | nil => rfl
  | cons line ls ih =>
    rw [List.flatMap_cons, List.foldl_append, ih]
    cases line with
    | text content => rfl
    | tag name argument content =>
      have htag := parts_of_tag_line name (joinLines (content :: (gather ls).1)) argument
      rw [gather]
      dsimp only
      rw [List.flatMap_cons, htag]
      simp only [Line.parts, List.foldl_append, List.foldl_cons, List.foldl_nil,
        leavesOpen_joinLines]

theorem readsAs_of_mapM {ls : List (List Char)} {lines : List Line} (hn : ∀ l ∈ ls, '\n' ∉ l)
    (h : ls.mapM line? = some lines) :
    (∀ line ∈ lines, ∃ l ∈ ls, ReadsAs l line) ∧
      ∀ b, ls.foldl leavesOpen b = (lines.flatMap Line.parts).foldl leavesOpen b := by
  induction ls generalizing lines with
  | nil =>
    obtain rfl : [] = lines := by simpa using h
    exact ⟨by simp, fun b => rfl⟩
  | cons l ls ih =>
    rw [List.mapM_cons] at h
    obtain ⟨line, hline, h⟩ := Option.bind_eq_some_iff.1 h
    obtain ⟨more, hmore, h⟩ := Option.bind_eq_some_iff.1 h
    obtain rfl : line :: more = lines := by simpa using h
    have hread := readsAs_of_line? (hn l List.mem_cons_self) hline
    obtain ⟨hreads, hopen⟩ := ih (fun k hk => hn k (List.mem_cons_of_mem l hk)) hmore
    refine ⟨List.forall_mem_cons.2 ⟨⟨l, List.mem_cons_self, hread⟩, fun k hk => ?_⟩, fun b => ?_⟩
    · obtain ⟨m, hm, hread⟩ := hreads k hk
      exact ⟨m, List.mem_cons_of_mem l hm, hread⟩
    · rw [List.foldl_cons, hread.inlineTags, hopen, List.flatMap_cons, List.foldl_append]

theorem isNormal_of_parse {text : String} {c : DocComment} (h : parse text = .ok c) :
    c.IsNormal := by
  obtain ⟨inner, -, hoccurs, hopen, hdoc⟩ := parse_eq_ok_iff.1 h
  obtain ⟨lines, hlines, rfl⟩ := Option.map_eq_some_iff.1 hdoc
  obtain ⟨hreads, hfold⟩ := readsAs_of_mapM (fun l hl => (mem_contentLines hl).2) hlines
  have hchain := occurs_pair_eq_false_iff.1 hoccurs
  have hnormal : ∀ line ∈ lines, line.IsNormal := by
    intro line hline
    obtain ⟨l, -, hread⟩ := hreads line hline
    exact hread.normal
  have hparts : ∀ line ∈ lines, ∀ p ∈ line.parts, p.IsChain (Apart '*' '/') := by
    intro line hline p hp
    obtain ⟨l, hl, hread⟩ := hreads line hline
    exact hchain.infix ((hread.parts p hp).trans (mem_contentLines hl).1)
  have hclosed : (lines.flatMap Line.parts).foldl leavesOpen false = false := by
    rw [← hfold, ← leavesOpen_contentLines, hopen]
  obtain ⟨hlead, htags⟩ := gather_normal hnormal
  obtain ⟨hleadChain, htagsChain⟩ := gather_isChain hparts
  have hcontent : ∀ k ∈ (gather lines).1, Line.IsNormalContent k := fun k hk => (hlead k hk).1
  have hdescription : textLines (ofLines lines).description ⊆ (gather lines).1 :=
    (textLines_joinLines_sublist hcontent).subset
  have hwhole : (ofLines lines).parts =
      joinLines (gather lines).1 :: (gather lines).2.flatMap BlockTag.parts := by
    simp [parts, ofLines]
  refine ⟨isNormalText_joinLines hcontent, fun l hl => (hlead l (hdescription hl)).2, htags, ?_, ?_⟩
  · refine isChain_apart_iff.1 (isChain_join (by decide) (by decide) ?_)
    rw [hwhole]
    refine List.forall_mem_cons.2 ⟨isChain_joinLines hleadChain, fun p hp => ?_⟩
    obtain ⟨t, ht, hp⟩ := List.mem_flatMap.1 hp
    exact htagsChain t ht p hp
  · refine leavesOpen_whole_eq_false_iff.1 ?_
    rw [leavesOpen_whole, hwhole, List.foldl_cons, leavesOpen_joinLines, ← foldl_leavesOpen_gather,
      hclosed]

/-- Every normal comment is read back from its canonical form, and every comment that is read from
some text is normal, so that its canonical form says the same as the text. -/
theorem parse_canonical_form :
    (∀ c : DocComment, c.IsNormal → parse c.print = .ok c) ∧
      ∀ (text : String) (c : DocComment), parse text = .ok c →
        c.IsNormal ∧ parse c.print = parse text := by
  refine ⟨fun c hc => parse_print hc, fun text c h => ?_⟩
  have hc := isNormal_of_parse h
  exact ⟨hc, (parse_print hc).trans h.symm⟩

theorem canonical_setter_comment :
    let text := "/**\n *   Sets the {@code bar}\n *\n value.\n * @param bar  the new\n" ++
      " *    value\n * @throws\n * \n * IOException  sometimes */"
    let c : DocComment := ⟨"Sets the {@code bar}\n\nvalue.",
      [⟨"param", some "bar", "the new\nvalue"⟩, ⟨"throws", none, "IOException  sometimes"⟩]⟩
    parse text = .ok c ∧ c.IsNormal ∧ parse c.print = .ok c ∧ parse c.print = parse text := by
  intro text c
  have h : parse text = .ok c := by decide +kernel
  obtain ⟨hc, hprint⟩ := parse_canonical_form.2 text c h
  exact ⟨h, hc, parse_canonical_form.1 c hc, hprint⟩

end BeanDoc.DocComment
