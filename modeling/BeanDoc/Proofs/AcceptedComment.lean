import BeanDoc.Proofs.LayoutMeaning

/-! Which texts are documentation comments, and what is told of the others. Four conditions decide:
the markers, no further end of the block, closed inline tags, and well-formed tag lines. The fault
that is told is that of the first condition that fails, and of the first line that is at fault. -/

namespace BeanDoc.DocComment

open Text

/-- The text is a block with the given body. The markers do not overlap. -/
def IsBlock (text : String) (inner : List Char) : Prop :=
  trim text.toList = ['/', '*', '*'] ++ (inner ++ ['*', '/'])

def ClosesInlineTags (inner : List Char) : Prop :=
  ∀ pre post, inner = pre ++ '{' :: '@' :: post → '}' ∈ post

structure NamesTag (source name rest : List Char) : Prop where
  split : source = name ++ rest
  ne_nil : name ≠ []
  alphanumeric : ∀ c ∈ name, isAlphanumeric c = true
  ends : ∀ c ∈ rest.head?, isBlank c = true

def WellFormedLine (l : List Char) : Prop :=
  ∀ source, trim l = '@' :: source → ∃ name rest, NamesTag source name rest ∧
    (name = ['p', 'a', 'r', 'a', 'm'] → ∃ c ∈ rest, isBlank c = false)

inductive LineFault (number : Nat) (l : List Char) : Fault → Prop
  | nameless {source : List Char} (hline : trim l = '@' :: source)
      (hname : ∀ name rest, ¬ NamesTag source name rest) : LineFault number l (.namelessTag number)
  | parameter {source rest : List Char} (hline : trim l = '@' :: source)
      (hname : NamesTag source ['p', 'a', 'r', 'a', 'm'] rest) (hrest : allBlank rest = true) :
    LineFault number l (.namelessParameter number)

/-- The conditions before that of a fault hold of the text, and its own does not. The fault of a
line is that of the first line with a fault; lines are counted from one. -/
def FirstFault (text : String) : Fault → Prop
  | .missingOpening => ¬ ['/', '*', '*'] <+: trim text.toList
  | .unterminated =>
    ∃ rest, trim text.toList = ['/', '*', '*'] ++ rest ∧ ¬ ['*', '/'] <:+ rest
  | .earlyTerminator => ∃ inner, IsBlock text inner ∧ ['*', '/'] <:+: inner
  | .unclosedInlineTag =>
    ∃ inner, IsBlock text inner ∧ ¬ ['*', '/'] <:+: inner ∧ ¬ ClosesInlineTags inner
  | f =>
    ∃ inner, IsBlock text inner ∧ ¬ ['*', '/'] <:+: inner ∧ ClosesInlineTags inner ∧
      ∃ before l after, contentLines inner = before ++ l :: after ∧
        (∀ k ∈ before, WellFormedLine k) ∧ LineFault (before.length + 1) l f

theorem inlineTagsClosed_iff {inner : List Char} :
    inlineTagsClosed false inner = true ↔ ClosesInlineTags inner := by
  have hopen : leavesOpen false inner = true ↔
      ∃ pre post, inner = pre ++ '{' :: '@' :: post ∧ '}' ∉ post := by
    rw [leavesOpen_eq_true_iff]
    simp
  rw [inlineTagsClosed_eq_not_leavesOpen, Bool.not_eq_true', Bool.eq_false_iff, Ne, hopen]
  simp only [not_exists, not_and, not_not]
  rfl

section tags
variable {source name rest : List Char}

namespace NamesTag

theorem isTagName (h : NamesTag source name rest) : isTagName name = true := by
  simpa [DocComment.isTagName] using ⟨h.ne_nil, h.alphanumeric⟩

theorem not_blank (h : NamesTag source name rest) : ∀ c ∈ name, isBlank c = false :=
  fun c hc => not_blank_of_isAlphanumeric (h.alphanumeric c hc)

theorem cutWhere_fst (h : NamesTag source name rest) : (cutWhere isBlank source).1 = name := by
  rw [h.split]
  cases rest with
  | nil => rw [List.append_nil, cutWhere_of_none h.not_blank]
  | cons b more => rw [cutWhere_append h.not_blank (h.ends b rfl)]

theorem allBlank_rest_iff (h : NamesTag source name rest) :
    allBlank rest = true ↔ trim (cutWhere isBlank source).2 = [] := by
  rw [h.split]
  cases rest with
  | nil =>
    rw [List.append_nil, cutWhere_of_none h.not_blank]
    exact iff_of_true rfl rfl
  | cons b more =>
    have hb : isBlank b = true := h.ends b rfl
    rw [cutWhere_append h.not_blank hb, trim_eq_nil_iff]
    simp [allBlank, hb]

end NamesTag

theorem exists_namesTag (h : isTagName (cutWhere isBlank source).1 = true) :
    ∃ rest, NamesTag source (cutWhere isBlank source).1 rest := by
  have hname : (cutWhere isBlank source).1 ≠ [] ∧
      ∀ c ∈ (cutWhere isBlank source).1, isAlphanumeric c = true := by
    simpa [isTagName] using h
  obtain ⟨-, ⟨hall, -⟩ | ⟨b, hb, hsplit⟩⟩ := cutWhere_cases isBlank source
  · exact ⟨[], by rwa [List.append_nil], hname.1, hname.2, by simp⟩
  · exact ⟨b :: (cutWhere isBlank source).2, hsplit, hname.1, hname.2, by simpa using hb⟩

end tags

section lines
variable {number : Nat} {l : List Char} {f : Fault}

theorem readLine_eq_error_iff : readLine number l = .error f ↔ LineFault number l f := by
  by_cases hat : (trim l).head? = some '@'
  · obtain ⟨source, hsource⟩ := List.head?_eq_some_iff.1 hat
    rw [readLine_of_tag hsource, readTag_eq_error_iff]
    constructor
    · rintro (⟨hname, rfl⟩ | ⟨hname, hneeds, hrest, rfl⟩)
      · refine .nameless hsource fun name rest h => ?_
        rw [h.cutWhere_fst, h.isTagName] at hname
        cases hname
      · obtain ⟨rest, h⟩ := exists_namesTag hname
        have hblank := h.allBlank_rest_iff.2 hrest
        rw [eq_of_beq hneeds] at h
        exact .parameter hsource h hblank
    · rintro (⟨hline, hname⟩ | ⟨hline, hname, hrest⟩)
      · obtain rfl := (List.cons.inj (hsource.symm.trans hline)).2
        refine .inl ⟨?_, rfl⟩
        rw [Bool.eq_false_iff]
        intro htag
        obtain ⟨rest, h⟩ := exists_namesTag htag
        exact hname _ rest h
      · obtain rfl := (List.cons.inj (hsource.symm.trans hline)).2
        refine .inr ⟨?_, ?_, hname.allBlank_rest_iff.1 hrest, rfl⟩
        · rw [hname.cutWhere_fst]
          exact hname.isTagName
        · rw [hname.cutWhere_fst]
          rfl
  · rw [readLine_of_text hat]
    constructor
    · rintro ⟨⟩
    · rintro (⟨hline, -⟩ | ⟨hline, -, -⟩)
      · exact absurd (by rw [hline]; rfl) hat
      · exact absurd (by rw [hline]; rfl) hat

theorem wellFormedLine_iff (number : Nat) : WellFormedLine l ↔ ∀ f, ¬ LineFault number l f := by
  constructor
  · rintro h f (⟨hline, hname⟩ | ⟨hline, hname, hblank⟩)
    · obtain ⟨name, rest, hnames, -⟩ := h _ hline
      exact hname name rest hnames
    · obtain ⟨name, rest, hnames, hword⟩ := h _ hline
      obtain ⟨c, hc, hnot⟩ := hword (hnames.cutWhere_fst.symm.trans hname.cutWhere_fst)
      -- the rest is the same, whichever way the source is cut
      have hrest := hnames.allBlank_rest_iff.2 (hname.allBlank_rest_iff.1 hblank)
      rw [allBlank_iff.1 hrest c hc] at hnot
      cases hnot
  · intro h source hline
    by_cases hnames : ∃ name rest, NamesTag source name rest
    · obtain ⟨name, rest, hnames⟩ := hnames
      refine ⟨name, rest, hnames, ?_⟩
      rintro rfl
      by_contra hnone
      refine h _ (.parameter hline hnames (allBlank_iff.2 fun c hc => ?_))
      by_contra hc'
      exact hnone ⟨c, hc, Bool.eq_false_iff.2 hc'⟩
    · refine absurd (.nameless hline fun name rest hname => ?_) (h _)
      exact hnames ⟨name, rest, hname⟩

theorem readLine_eq_ok_iff (number : Nat) :
    (∃ line, readLine number l = .ok line) ↔ WellFormedLine l := by
  rw [wellFormedLine_iff number]
  simp only [← readLine_eq_error_iff]
  cases readLine number l <;> simp

theorem readLines_eq_error_iff {ls : List (List Char)} :
    readLines number ls = .error f ↔ ∃ before l after, ls = before ++ l :: after ∧
      (∀ k ∈ before, WellFormedLine k) ∧ LineFault (number + before.length) l f := by
  induction ls generalizing number with
  | nil => simp [readLines]
  | cons l ls ih =>
    cases hread : readLine number l with
    | error g =>
      have hfirst : readLines number (l :: ls) = .error g := by
        rw [readLines, hread]
        rfl
      have hg := readLine_eq_error_iff.1 hread
      rw [hfirst]
      constructor
      · intro h
        obtain rfl := Except.error.inj h
        exact ⟨[], l, ls, rfl, by simp, hg⟩
      · rintro ⟨before, k, after, hsplit, hbefore, hfault⟩
        cases before with
        | nil =>
          obtain ⟨rfl, -⟩ := List.cons.inj hsplit
          obtain rfl : g = f := Except.error.inj (hread.symm.trans (readLine_eq_error_iff.2 hfault))
          rfl
        | cons b before =>
          obtain ⟨rfl, -⟩ := List.cons.inj hsplit
          exact absurd hg ((wellFormedLine_iff number).1 (hbefore l List.mem_cons_self) g)
    | ok line =>
      have hwell : WellFormedLine l := (readLine_eq_ok_iff number).1 ⟨line, hread⟩
      have hrest : readLines number (l :: ls) = .error f ↔
          readLines (number + 1) ls = .error f := by
        rw [readLines, hread]
        cases readLines (number + 1) ls <;> simp [bind, Except.bind, pure, Except.pure]
      rw [hrest, ih]
      constructor
      · rintro ⟨before, k, after, rfl, hbefore, hfault⟩
        refine ⟨l :: before, k, after, rfl, List.forall_mem_cons.2 ⟨hwell, hbefore⟩, ?_⟩
        rwa [List.length_cons, Nat.add_comm before.length, ← Nat.add_assoc]
      · rintro ⟨before, k, after, hsplit, hbefore, hfault⟩
        cases before with
        | nil =>
          obtain ⟨rfl, -⟩ := List.cons.inj hsplit
          exact absurd hfault ((wellFormedLine_iff _).1 hwell f)
        | cons b before =>
          obtain ⟨-, rfl⟩ := List.cons.inj hsplit
          refine ⟨before, k, after, rfl, (List.forall_mem_cons.1 hbefore).2, ?_⟩
          rwa [List.length_cons, Nat.add_comm before.length, ← Nat.add_assoc] at hfault

theorem readLines_eq_ok_iff (number : Nat) {ls : List (List Char)} :
    (∃ lines, readLines number ls = .ok lines) ↔ ∀ l ∈ ls, WellFormedLine l := by
  induction ls generalizing number with
  | nil => simp [readLines]
  | cons l ls ih =>
    rw [List.forall_mem_cons, ← readLine_eq_ok_iff number, ← ih (number + 1), readLines]
    cases readLine number l <;> cases readLines (number + 1) ls <;>
      simp [bind, Except.bind, pure, Except.pure]

end lines

theorem body_eq_error_iff {text : List Char} {f : Fault} : body text = .error f ↔
    (¬ ['/', '*', '*'] <+: trim text ∧ f = .missingOpening) ∨
    ((∃ rest, trim text = ['/', '*', '*'] ++ rest ∧ ¬ ['*', '/'] <:+ rest) ∧
      f = .unterminated) := by
  cases hafter : after? ['/', '*', '*'] (trim text) with
  | none =>
    have hopening := after?_eq_none_iff.1 hafter
    have hrest : ¬ ∃ rest, trim text = ['/', '*', '*'] ++ rest ∧ ¬ ['*', '/'] <:+ rest := by
      rintro ⟨rest, htrim, -⟩
      exact hopening ⟨rest, htrim.symm⟩
    rw [body, hafter, and_iff_right hopening, or_iff_left (fun h => hrest h.1)]
    simp only [Except.error.injEq, eq_comm (a := f)]
  | some rest =>
    have htrim := after?_eq_some_iff.1 hafter
    have hopening : ['/', '*', '*'] <+: trim text := ⟨rest, htrim.symm⟩
    have hrest : (∃ rest, trim text = ['/', '*', '*'] ++ rest ∧ ¬ ['*', '/'] <:+ rest) ↔
        before? ['*', '/'] rest = none := by
      rw [before?_eq_none_iff]
      constructor
      · rintro ⟨rest', htrim', h⟩
        rwa [List.append_cancel_left (htrim.symm.trans htrim')]
      · exact fun h => ⟨rest, htrim, h⟩
    rw [body, hafter, hrest]
    cases hbefore : before? ['*', '/'] rest <;> simp [hbefore, hopening, eq_comm (a := f)]

theorem parse_eq_error_iff {text : String} {f : Fault} : parse text = .error f ↔
    body text.toList = .error f ∨ ∃ inner, body text.toList = .ok inner ∧
      (occurs ['*', '/'] inner = true ∧ f = .earlyTerminator ∨
        occurs ['*', '/'] inner = false ∧
          (inlineTagsClosed false inner = false ∧ f = .unclosedInlineTag ∨
            inlineTagsClosed false inner = true ∧
              readLines 1 (contentLines inner) = .error f)) := by
  unfold parse
  cases body text.toList with
  | error g => simp [bind, Except.bind]
  | ok inner =>
    cases ho : occurs ['*', '/'] inner <;> cases hi : inlineTagsClosed false inner <;>
      cases hr : readLines 1 (contentLines inner) <;>
      simp [bind, Except.bind, pure, Except.pure, throw, throwThe, MonadExceptOf.throw, ho, hi, hr,
        eq_comm (a := f)]

theorem parse_eq_error_iff_firstFault {text : String} {f : Fault} :
    parse text = .error f ↔ FirstFault text f := by
  rw [parse_eq_error_iff, body_eq_error_iff]
  simp only [body_eq_ok_iff, occurs_eq_true_iff, inlineTagsClosed_iff, readLines_eq_error_iff,
    ← Bool.not_eq_true, Nat.add_comm 1]
  cases f with
  | missingOpening =>
    have hline : ∀ n l, ¬ LineFault n l .missingOpening := nofun
    simp [FirstFault, hline]
  | unterminated =>
    have hline : ∀ n l, ¬ LineFault n l .unterminated := nofun
    simp [FirstFault, hline]
  | earlyTerminator =>
    have hline : ∀ n l, ¬ LineFault n l .earlyTerminator := nofun
    simp [FirstFault, IsBlock, hline]
  | unclosedInlineTag =>
    have hline : ∀ n l, ¬ LineFault n l .unclosedInlineTag := nofun
    simp [FirstFault, IsBlock, hline]
  | namelessTag line => simp [FirstFault, IsBlock]
  | namelessParameter line => simp [FirstFault, IsBlock]

theorem exists_ofContent?_iff {ls : List (List Char)} :
    (∃ doc, ofContent? ls = some doc) ↔ ∀ l ∈ ls, WellFormedLine l := by
  rw [← readLines_eq_ok_iff 1, ofContent?, ← readLines_toOption 1]
  cases readLines 1 ls <;> simp [Except.toOption]

/-- A text is read exactly if it meets the four conditions, and otherwise the first of them that
fails is told. -/
theorem parse_accepts_exactly (text : String) :
    ((∃ doc, parse text = .ok doc) ↔ ∃ inner, IsBlock text inner ∧ ¬ ['*', '/'] <:+: inner ∧
      ClosesInlineTags inner ∧ ∀ l ∈ contentLines inner, WellFormedLine l) ∧
    ∀ f, parse text = .error f ↔ FirstFault text f := by
  refine ⟨?_, fun f => parse_eq_error_iff_firstFault⟩
  constructor
  · rintro ⟨doc, h⟩
    obtain ⟨inner, hbody, hoccurs, hopen, hdoc⟩ := parse_eq_ok_iff.1 h
    refine ⟨inner, body_eq_ok_iff.1 hbody, ?_, ?_, exists_ofContent?_iff.1 ⟨doc, hdoc⟩⟩
    · rwa [← occurs_eq_true_iff, Bool.not_eq_true]
    · rw [← inlineTagsClosed_iff, inlineTagsClosed_eq_not_leavesOpen, hopen]
      rfl
  · rintro ⟨inner, hblock, hoccurs, hclosed, hlines⟩
    obtain ⟨doc, hdoc⟩ := exists_ofContent?_iff.2 hlines
    refine ⟨doc, parse_eq_ok_iff.2 ⟨inner, body_eq_ok_iff.2 hblock, ?_, ?_, hdoc⟩⟩
    · rwa [← occurs_eq_true_iff, Bool.not_eq_true] at hoccurs
    · rwa [← inlineTagsClosed_iff, inlineTagsClosed_eq_not_leavesOpen, Bool.not_eq_true'] at hclosed

end BeanDoc.DocComment
