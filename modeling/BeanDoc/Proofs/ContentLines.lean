import BeanDoc.DocComment.Grammar
import BeanDoc.Proofs.TextLines
import BeanDoc.Proofs.TrimmedText

/-! A comment is what its content lines are. Decoration, trailing white space and blank lines at
either end matter neither for inline tags nor for the description and the tags. -/

namespace BeanDoc.DocComment

open Text

theorem Decorated.suffix {line content : List Char} (h : Decorated line content) :
    content <:+ line := by
  cases h with
  | @bare indent => exact List.suffix_append indent content
  | @starred indent => exact ⟨indent ++ ['*'], by simp⟩
  | @spaced indent => exact ⟨indent ++ ['*', ' '], by simp⟩

theorem undecorate_suffix (line : List Char) : undecorate line <:+ line :=
  (decorated_undecorate line).suffix

theorem mem_contentLines {l inner : List Char} (h : l ∈ contentLines inner) :
    l <:+: inner ∧ '\n' ∉ l := by
  obtain ⟨line, hline, rfl⟩ := List.mem_map.1 h
  obtain ⟨hpart, hnot⟩ := mem_lines hline
  have hsuffix := undecorate_suffix line
  exact ⟨hsuffix.isInfix.trans hpart, fun hmem => hnot (hsuffix.subset hmem)⟩

theorem contentLines_of_not_mem {inner : List Char} (h : '\n' ∉ inner) (hne : inner ≠ []) :
    contentLines inner = [undecorate inner] := by
  simp [contentLines, lines_of_not_mem h, hne]

/-- Whether a `{@` is open behind the text, given whether one is in front of it. -/
def leavesOpen : (inside : Bool) → List Char → Bool
  | inside, [] => inside
  | true, c :: cs => leavesOpen (c != '}') cs
  | false, '{' :: '@' :: cs => leavesOpen true cs
  | false, _ :: cs => leavesOpen false cs

theorem inlineTagsClosed_eq_not_leavesOpen (inside : Bool) (cs : List Char) :
    inlineTagsClosed inside cs = !leavesOpen inside cs := by
  fun_induction inlineTagsClosed inside cs with
  | case1 inside => cases inside <;> rfl
  | case2 c cs ih => rw [leavesOpen, ih]
  | case3 cs ih => rw [leavesOpen, ih]
  | case4 c cs hnot ih => rw [leavesOpen, ih]; exact hnot

theorem exists_open_cons_iff {c : Char} {cs : List Char} :
    (∃ pre post, c :: cs = pre ++ '{' :: '@' :: post ∧ '}' ∉ post) ↔
      (c = '{' ∧ ∃ post, cs = '@' :: post ∧ '}' ∉ post) ∨
        ∃ pre post, cs = pre ++ '{' :: '@' :: post ∧ '}' ∉ post := by
  constructor
  · rintro ⟨pre, post, hcs, hpost⟩
    rcases List.cons_eq_append_iff.1 hcs with ⟨-, hcs⟩ | ⟨pre, -, hcs⟩
    · obtain ⟨rfl, rfl⟩ := List.cons.inj hcs.symm
      exact .inl ⟨rfl, post, rfl, hpost⟩
    · exact .inr ⟨pre, post, hcs, hpost⟩
  · rintro (⟨rfl, post, rfl, hpost⟩ | ⟨pre, post, rfl, hpost⟩)
    · exact ⟨[], post, rfl, hpost⟩
    · exact ⟨c :: pre, post, rfl, hpost⟩

theorem leavesOpen_eq_true_iff {inside : Bool} {cs : List Char} :
    leavesOpen inside cs = true ↔ inside = true ∧ '}' ∉ cs ∨
      ∃ pre post, cs = pre ++ '{' :: '@' :: post ∧ '}' ∉ post := by
  fun_induction leavesOpen inside cs with
  | case1 inside => simp
  | case2 c cs ih =>
    have hclosed : '}' ∉ c :: cs ↔ c ≠ '}' ∧ '}' ∉ cs := by
      rw [List.mem_cons, not_or, ne_comm]
    rw [ih, exists_open_cons_iff, bne_iff_ne, hclosed]
    constructor
    · rintro (hnone | hlater)
      · exact .inl ⟨rfl, hnone⟩
      · exact .inr (.inr hlater)
    · rintro (⟨-, hnone⟩ | ⟨rfl, post, rfl, hpost⟩ | hlater)
      · exact .inl hnone
      · -- the `{@` begins with `c`, and there is no `}` behind it
        exact .inl ⟨by decide, by simpa using hpost⟩
      · exact .inr hlater
  | case3 cs ih =>
    rw [ih, exists_open_cons_iff, exists_open_cons_iff]
    simp
  | case4 c cs hnot ih =>
    have hno : ¬ (c = '{' ∧ ∃ post, cs = '@' :: post ∧ '}' ∉ post) := by
      rintro ⟨rfl, post, rfl, -⟩
      exact hnot post rfl rfl
    rw [ih, exists_open_cons_iff]
    simp only [Bool.false_eq_true, false_and, false_or, hno]

theorem leavesOpen_cons {c : Char} (hopen : c ≠ '{') (hclose : c ≠ '}') (inside : Bool)
    (cs : List Char) : leavesOpen inside (c :: cs) = leavesOpen inside cs := by
  cases inside with
  | true => rw [leavesOpen, bne_iff_ne.2 hclose]
  | false => rw [leavesOpen]; exact fun _ hc => absurd hc hopen

theorem leavesOpen_blank_append {pre : List Char} (h : allBlank pre = true) (inside : Bool)
    (cs : List Char) : leavesOpen inside (pre ++ cs) = leavesOpen inside cs := by
  induction pre with
  | nil => rfl
  | cons c pre ih =>
    obtain ⟨hc, hpre⟩ : isBlank c = true ∧ allBlank pre = true := by simpa [allBlank] using h
    have hopen : c ≠ '{' := by rintro rfl; simp [isBlank] at hc
    have hclose : c ≠ '}' := by rintro rfl; simp [isBlank] at hc
    rw [List.cons_append, leavesOpen_cons hopen hclose, ih hpre]

theorem leavesOpen_of_blank {l : List Char} (h : allBlank l = true) (inside : Bool) :
    leavesOpen inside l = inside := by
  have hnil := leavesOpen_blank_append h inside []
  rwa [List.append_nil, leavesOpen] at hnil

/-- Text that does not start with `@` cannot complete an inline tag. -/
theorem leavesOpen_append {bs : List Char} (h : bs.head? ≠ some '@') (inside : Bool)
    (as : List Char) :
    leavesOpen inside (as ++ bs) = leavesOpen (leavesOpen inside as) bs := by
  fun_induction leavesOpen inside as with
  | case1 inside => rfl
  | case2 c cs ih => rw [List.cons_append, leavesOpen, ih]
  | case3 cs ih => rw [List.cons_append, List.cons_append, leavesOpen, ih]
  | case4 c cs hnot ih =>
    rw [List.cons_append, leavesOpen, ih]
    -- a `{` at the end of `as` would need the `@` from `bs`
    intro rest hc hrest
    cases cs with
    | nil => exact h (by simpa using congrArg List.head? hrest)
    | cons d cs =>
      obtain ⟨rfl, -⟩ : d = '@' ∧ cs ++ bs = rest := by simpa using hrest
      exact hnot cs hc rfl

theorem leavesOpen_append_blank {post : List Char} (h : allBlank post = true) (inside : Bool)
    (cs : List Char) : leavesOpen inside (cs ++ post) = leavesOpen inside cs := by
  have hhead : post.head? ≠ some '@' := by
    intro hsome
    have hblank := allBlank_iff.1 h '@' (List.mem_of_mem_head? hsome)
    simp [isBlank] at hblank
  rw [leavesOpen_append hhead, leavesOpen_of_blank h]

theorem leavesOpen_dropOne {c : Char} (hopen : c ≠ '{') (hclose : c ≠ '}') (inside : Bool)
    (cs : List Char) : leavesOpen inside (dropOne c cs) = leavesOpen inside cs := by
  cases cs with
  | nil => rfl
  | cons d cs =>
    by_cases hd : d = c
    · subst hd
      rw [leavesOpen_cons hopen hclose]
      simp [dropOne]
    · simp [dropOne, hd]

theorem leavesOpen_trimStart (inside : Bool) (line : List Char) :
    leavesOpen inside (trimStart line) = leavesOpen inside line := by
  obtain ⟨pre, hpre, hline⟩ := exists_eq_append_trimStart line
  conv_rhs => rw [hline, leavesOpen_blank_append hpre]

theorem leavesOpen_undecorate (inside : Bool) (line : List Char) :
    leavesOpen inside (undecorate line) = leavesOpen inside line := by
  rw [undecorate, leavesOpen_dropOne (by decide) (by decide),
    leavesOpen_dropOne (by decide) (by decide), leavesOpen_trimStart]

theorem leavesOpen_trimEnd (inside : Bool) (line : List Char) :
    leavesOpen inside (trimEnd line) = leavesOpen inside line := by
  obtain ⟨post, hpost, hline⟩ := exists_eq_trimEnd_append line
  conv_rhs => rw [hline, leavesOpen_append_blank hpost]

theorem leavesOpen_trim (inside : Bool) (line : List Char) :
    leavesOpen inside (trim line) = leavesOpen inside line := by
  rw [trim, leavesOpen_trimEnd, leavesOpen_trimStart]

theorem leavesOpen_lines (inside : Bool) (cs : List Char) :
    leavesOpen inside cs = (lines cs).foldl leavesOpen inside := by
  induction cs using line_induction generalizing inside with
  | last l hl =>
    rw [lines_of_not_mem hl]
    cases l <;> simp [leavesOpen]
  | line l rest hl ih =>
    have hreturn : leavesOpen inside (dropReturn l) = leavesOpen inside l := by
      rcases eq_dropReturn_or l with h | h
      · rw [← h]
      · conv_rhs => rw [h, leavesOpen_append_blank (by decide)]
    rw [lines_append_newline hl, List.foldl_cons, hreturn, ← ih,
      leavesOpen_append (by simp), leavesOpen_cons (by decide) (by decide)]

theorem leavesOpen_contentLines (inside : Bool) (inner : List Char) :
    leavesOpen inside inner = (contentLines inner).foldl leavesOpen inside := by
  rw [leavesOpen_lines, contentLines, List.foldl_map]
  simp only [leavesOpen_undecorate]

def line? (l : List Char) : Option Line :=
  (readLine 1 l).toOption

def ofContent? (ls : List (List Char)) : Option DocComment :=
  (ls.mapM line?).map ofLines

theorem readLine_toOption (number : Nat) (l : List Char) :
    (readLine number l).toOption = line? l := by
  unfold line? readLine readTag
  split
  · dsimp only
    split
    · rfl
    · split
      · rfl
      · split
        · rfl
        · split <;> rfl
  · rfl

theorem readLines_toOption (number : Nat) (ls : List (List Char)) :
    (readLines number ls).toOption = ls.mapM line? := by
  induction ls generalizing number with
  | nil => rfl
  | cons l ls ih =>
    rw [List.mapM_cons, ← readLine_toOption number l, ← ih (number + 1), readLines]
    cases readLine number l with
    | error f => rfl
    | ok line => cases readLines (number + 1) ls <;> rfl

theorem parse_eq_ok_iff {text : String} {doc : DocComment} :
    parse text = .ok doc ↔ ∃ inner, body text.toList = .ok inner ∧
      occurs ['*', '/'] inner = false ∧ leavesOpen false inner = false ∧
      ofContent? (contentLines inner) = some doc := by
  unfold parse ofContent?
  cases hb : body text.toList with
  | error f => simp [bind, Except.bind]
  | ok inner =>
    have hread := readLines_toOption 1 (contentLines inner)
    have hclosed := inlineTagsClosed_eq_not_leavesOpen false inner
    cases ho : occurs ['*', '/'] inner <;> cases hi : leavesOpen false inner <;>
      cases hr : readLines 1 (contentLines inner) <;>
      simp [bind, Except.bind, pure, Except.pure, throw, throwThe, MonadExceptOf.throw, hclosed,
        ← hread, ho, hi, hr, Except.toOption]

theorem line?_congr {l k : List Char} (h : trim l = trim k) : line? l = line? k := by
  rw [line?, line?, readLine, readLine, h]

theorem line?_of_blank {l : List Char} (h : allBlank l = true) : line? l = some (.text []) := by
  rw [line?, readLine, trim_eq_nil_iff.2 h]
  rfl

theorem ofContent?_map {f : List Char → List Char} (h : ∀ l, trim (f l) = trim l)
    (ls : List (List Char)) : ofContent? (ls.map f) = ofContent? ls := by
  have hmap : (ls.map f).mapM line? = ls.mapM line? := by
    induction ls with
    | nil => rfl
    | cons l ls ih => rw [List.map_cons, List.mapM_cons, List.mapM_cons, line?_congr (h l), ih]
  rw [ofContent?, hmap, ofContent?]

theorem joinLines_nil_cons (ls : List (List Char)) : joinLines ([] :: ls) = joinLines ls := by
  cases ls with
  | nil => rfl
  | cons l ls =>
    have hnewline : allBlank ['\n'] = true := by decide
    exact trim_blank_append hnewline (join ['\n'] (l :: ls))

theorem join_append_nil (l : List Char) (ls : List (List Char)) :
    join ['\n'] (l :: ls ++ [[]]) = join ['\n'] (l :: ls) ++ ['\n'] := by
  induction ls generalizing l with
  | nil => simp [join]
  | cons k ls ih => simpa [join] using ih k

theorem joinLines_append_nil (ls : List (List Char)) : joinLines (ls ++ [[]]) = joinLines ls := by
  cases ls with
  | nil => rfl
  | cons l ls => rw [joinLines, join_append_nil, trim_append_blank (by decide), joinLines]

theorem ofLines_blank_cons (ls : List Line) : ofLines (.text [] :: ls) = ofLines ls := by
  simp only [ofLines, gather, joinLines_nil_cons]

/-- A blank line at the end continues the description or the last tag, and is trimmed there. -/
theorem gather_append_blank (ls : List Line) :
    (gather (ls ++ [.text []])).2 = (gather ls).2 ∧
      ∀ before, joinLines (before ++ (gather (ls ++ [.text []])).1) =
        joinLines (before ++ (gather ls).1) := by
  induction ls with
  | nil => exact ⟨rfl, fun before => by simpa [gather] using joinLines_append_nil before⟩
  | cons line ls ih =>
    obtain ⟨htags, hlead⟩ := ih
    cases line with
    | text content =>
      refine ⟨htags, fun before => ?_⟩
      simpa [gather] using hlead (before ++ [content])
    | tag name argument content =>
      have hcontent := congrArg String.ofList (hlead [content])
      refine ⟨?_, fun before => rfl⟩
      simpa [gather, htags] using hcontent

theorem ofLines_append_blank (ls : List Line) : ofLines (ls ++ [.text []]) = ofLines ls := by
  obtain ⟨htags, hlead⟩ := gather_append_blank ls
  have hdescription := hlead []
  simp only [List.nil_append] at hdescription
  simp only [ofLines, htags, hdescription]

theorem ofContent?_blank_cons {l : List Char} (h : allBlank l = true) (ls : List (List Char)) :
    ofContent? (l :: ls) = ofContent? ls := by
  rw [ofContent?, List.mapM_cons, line?_of_blank h, ofContent?]
  cases ls.mapM line? with
  | none => rfl
  | some lines => exact congrArg some (ofLines_blank_cons lines)

theorem ofContent?_append_blank {l : List Char} (h : allBlank l = true) (ls : List (List Char)) :
    ofContent? (ls ++ [l]) = ofContent? ls := by
  rw [ofContent?, List.mapM_append, List.mapM_cons, line?_of_blank h, ofContent?]
  cases ls.mapM line? with
  | none => rfl
  | some lines => exact congrArg some (ofLines_append_blank lines)

theorem ofContent?_blanks_append {pre : List (List Char)} (h : ∀ l ∈ pre, allBlank l = true)
    (ls : List (List Char)) : ofContent? (pre ++ ls) = ofContent? ls := by
  induction pre with
  | nil => rfl
  | cons l pre ih =>
    rw [List.cons_append, ofContent?_blank_cons (h l List.mem_cons_self)]
    exact ih fun k hk => h k (List.mem_cons_of_mem l hk)

theorem ofContent?_append_blanks {post : List (List Char)} (h : ∀ l ∈ post, allBlank l = true)
    (ls : List (List Char)) : ofContent? (ls ++ post) = ofContent? ls := by
  induction post generalizing ls with
  | nil => rw [List.append_nil]
  | cons l post ih =>
    rw [List.append_cons, ih fun k hk => h k (List.mem_cons_of_mem l hk)]
    exact ofContent?_append_blank (h l List.mem_cons_self) ls

end BeanDoc.DocComment
