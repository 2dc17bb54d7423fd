import BeanDoc.Proofs.AcceptedComment

/-! Reading a comment loses no character and makes none up. White space apart, the content lines are
the description and then the tags, each with its `@`, its name, what it is about and its text. -/

namespace BeanDoc

namespace Text

def visible (cs : List Char) : List Char :=
  cs.filter fun c => !isBlank c

theorem visible_append (as bs : List Char) : visible (as ++ bs) = visible as ++ visible bs :=
  List.filter_append as bs

theorem visible_of_blank {cs : List Char} (h : allBlank cs = true) : visible cs = [] := by
  rw [visible, List.filter_eq_nil_iff]
  intro c hc
  simp [allBlank_iff.1 h c hc]

theorem visible_trimStart (cs : List Char) : visible (trimStart cs) = visible cs := by
  obtain ⟨pre, hpre, hcs⟩ := exists_eq_append_trimStart cs
  conv_rhs => rw [hcs, visible_append, visible_of_blank hpre, List.nil_append]

theorem visible_trimEnd (cs : List Char) : visible (trimEnd cs) = visible cs := by
  obtain ⟨post, hpost, hcs⟩ := exists_eq_trimEnd_append cs
  conv_rhs => rw [hcs, visible_append, visible_of_blank hpost, List.append_nil]

theorem visible_trim (cs : List Char) : visible (trim cs) = visible cs := by
  rw [trim, visible_trimEnd, visible_trimStart]

theorem visible_cutWhere (cs : List Char) :
    visible (cutWhere isBlank cs).1 ++ visible (cutWhere isBlank cs).2 = visible cs := by
  rcases (cutWhere_cases isBlank cs).2 with ⟨hfst, hsnd⟩ | ⟨b, hb, hcs⟩
  · rw [← hfst, hsnd]
    exact List.append_nil _
  · have hcut : visible (b :: (cutWhere isBlank cs).2) = visible (cutWhere isBlank cs).2 := by
      simp [visible, hb]
    conv_rhs => rw [hcs, visible_append, hcut]

theorem visible_join {sep : List Char} (h : allBlank sep = true) (ls : List (List Char)) :
    visible (join sep ls) = ls.flatMap visible := by
  induction ls with
  | nil => rfl
  | cons l ls ih =>
    cases ls with
    | nil => simp [join]
    | cons k ls =>
      rw [join_cons_of_ne_nil (List.cons_ne_nil k ls), visible_append, visible_append,
        visible_of_blank h, List.append_nil, ih]
      rfl

end Text

open Text

namespace DocComment

def Line.written : Line → List Char
  | .text content => content
  | .tag name argument content => '@' :: (name ++ argument.getD [] ++ content)

end DocComment

def BlockTag.written (t : BlockTag) : List Char :=
  '@' :: (t.name.toList ++ (t.argument.map String.toList).getD [] ++ t.text.toList)

namespace DocComment

def written (c : DocComment) : List Char :=
  c.description.toList ++ c.tags.flatMap BlockTag.written

theorem visible_at (cs : List Char) : visible ('@' :: cs) = '@' :: visible cs := by
  have hat : isBlank '@' = false := by decide
  simp [visible, hat]

theorem visible_readTag {number : Nat} {source : List Char} {line : Line}
    (h : (readTag number source).toOption = some line) :
    visible line.written = '@' :: visible source := by
  have hsource : visible source = visible (cutWhere isBlank source).1 ++
      visible (trim (cutWhere isBlank source).2) := by
    rw [visible_trim, visible_cutWhere]
  obtain ⟨-, ⟨rfl, -⟩ | ⟨rfl, -⟩⟩ := readTag_cases h rfl rfl
  · rw [Line.written, visible_at, hsource, visible_append, visible_append]
    simp [visible]
  · rw [Line.written, visible_at, hsource, ← visible_cutWhere (trim (cutWhere isBlank source).2)]
    simp [visible_append, visible_trim]

theorem visible_line? {l : List Char} {line : Line} (h : line? l = some line) :
    visible line.written = visible l := by
  by_cases hat : (trim l).head? = some '@'
  · obtain ⟨source, hsource⟩ := List.head?_eq_some_iff.1 hat
    rw [line?_of_tag hsource] at h
    rw [visible_readTag h, ← visible_at, ← hsource, visible_trim]
  · rw [line?_of_text hat] at h
    obtain rfl := Option.some.inj h
    exact visible_trim l

theorem visible_mapM_line? {ls : List (List Char)} {lines : List Line}
    (h : ls.mapM line? = some lines) :
    visible (lines.flatMap Line.written) = ls.flatMap visible := by
  induction ls generalizing lines with
  | nil =>
    obtain rfl : [] = lines := by simpa using h
    rfl
  | cons l ls ih =>
    rw [List.mapM_cons] at h
    obtain ⟨line, hline, h⟩ := Option.bind_eq_some_iff.1 h
    obtain ⟨more, hmore, h⟩ := Option.bind_eq_some_iff.1 h
    obtain rfl : line :: more = lines := by simpa using h
    rw [List.flatMap_cons, List.flatMap_cons, visible_append, visible_line? hline, ih hmore]

theorem visible_joinLines (ls : List (List Char)) :
    visible (joinLines ls) = ls.flatMap visible := by
  rw [joinLines, visible_trim, visible_join (by decide)]

theorem visible_tag_line (name content : List Char) (argument : Option (List Char))
    (more : List (List Char)) :
    visible (BlockTag.written ⟨String.ofList name, argument.map String.ofList,
        String.ofList (joinLines (content :: more))⟩) =
      visible (Line.tag name argument content).written ++ more.flatMap visible := by
  have hargument : ((argument.map String.ofList).map String.toList).getD [] =
      argument.getD [] := by
    cases argument <;> simp
  rw [BlockTag.written, Line.written, hargument]
  simp only [visible_at, visible_append, String.toList_ofList, visible_joinLines,
    List.flatMap_cons, List.cons_append, List.append_assoc]

theorem visible_gather (ls : List Line) :
    (gather ls).1.flatMap visible ++ visible ((gather ls).2.flatMap BlockTag.written) =
      visible (ls.flatMap Line.written) := by
  induction ls with
  | nil => rfl
  | cons line ls ih =>
    rw [List.flatMap_cons, visible_append, ← ih]
    cases line with
    | text content => simp [gather, Line.written]
    | tag name argument content =>
      -- what the later lines had in front of their first tag is the end of this tag's text
      have htag := visible_tag_line name content argument (gather ls).1
      simp only [gather, List.flatMap_nil, List.nil_append, List.flatMap_cons, visible_append, htag,
        List.append_assoc]

/-- What is read of a comment has the characters of its content lines, in their order and white
space apart. -/
theorem parse_keeps_characters {text : String} {c : DocComment} (h : parse text = .ok c) :
    ∃ inner, IsBlock text inner ∧ (contentLines inner).flatMap visible = visible c.written := by
  obtain ⟨inner, hbody, -, -, hdoc⟩ := parse_eq_ok_iff.1 h
  obtain ⟨lines, hlines, rfl⟩ := Option.map_eq_some_iff.1 hdoc
  refine ⟨inner, body_eq_ok_iff.1 hbody, ?_⟩
  have hdescription : visible (ofLines lines).description.toList =
      (gather lines).1.flatMap visible := by
    simp only [ofLines, String.toList_ofList, visible_joinLines]
  calc (contentLines inner).flatMap visible
      = visible (lines.flatMap Line.written) := (visible_mapM_line? hlines).symm
    _ = (gather lines).1.flatMap visible ++ visible ((gather lines).2.flatMap BlockTag.written) :=
        (visible_gather lines).symm
    _ = visible (ofLines lines).written := by
        rw [written, visible_append, hdescription]
        rfl

theorem parse_keeps_setter_comment :
    let text := "/**\n *   Sets  the bar *\n\n * @param bar  the new\n *    {@code bar}\n" ++
      " * @throws\n * IOException  sometimes\n@see #getBar */"
    let c : DocComment := ⟨"Sets  the bar *", [⟨"param", some "bar", "the new\n{@code bar}"⟩,
      ⟨"throws", none, "IOException  sometimes"⟩, ⟨"see", none, "#getBar"⟩]⟩
    parse text = .ok c ∧ ∃ inner, IsBlock text inner ∧
      (contentLines inner).flatMap visible = visible c.written := by
  intro text c
  have h : parse text = .ok c := by decide +kernel
  exact ⟨h, parse_keeps_characters h⟩

end DocComment

end BeanDoc
