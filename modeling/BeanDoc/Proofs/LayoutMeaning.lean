import BeanDoc.DocComment.Layout
import BeanDoc.Proofs.EditedClass
import BeanDoc.Proofs.TagLines

/-! Layout and meaning. A comment that is laid out anew keeps its description and its tags, unless
it is on one line and its text begins with a further `*` behind the decoration: on one line the
decoration is dropped, and the next reader takes that `*` for it. -/

namespace BeanDoc.DocComment

open Text

theorem body_eq_ok_iff {text inner : List Char} :
    body text = .ok inner ↔ trim text = ['/', '*', '*'] ++ (inner ++ ['*', '/']) := by
  constructor
  · intro h
    unfold body at h
    split at h
    · cases h
    · next rest hrest =>
      split at h
      · cases h
      · next lead hlead =>
        obtain rfl := Except.ok.inj h
        rw [after?_eq_some_iff.1 hrest, before?_eq_some_iff.1 hlead]
  · intro h
    rw [body, h, after?_append]
    simp only [before?_eq_some_iff.2 (rfl : inner ++ ['*', '/'] = inner ++ ['*', '/'])]

theorem body_block (inner : List Char) :
    body (['/', '*', '*'] ++ inner ++ ['*', '/']) = .ok inner := by
  have hslash : isBlank '/' = false := by decide
  rw [body_eq_ok_iff]
  simpa using trim_between hslash hslash ('*' :: '*' :: inner ++ ['*'])

def bodyLines (inner : List Char) : List (List Char) :=
  dropBlankEnds ((contentLines inner).map trimEnd)

def laidOut (inner : List Char) : List Char :=
  match bodyLines inner with
  | [] => [' ']
  | first :: more =>
    if '\n' ∈ inner then ['\n'] ++ (first :: more).flatMap decorate ++ [' ']
    else [' '] ++ trim first ++ [' ']

theorem layoutBody_eq_block (inner : List Char) :
    layoutBody inner = ['/', '*', '*'] ++ laidOut inner ++ ['*', '/'] := by
  have hbody : bodyLines inner = dropBlankEnds ((contentLines inner).map trimEnd) := rfl
  rw [layoutBody, laidOut, ← hbody]
  cases bodyLines inner with
  | nil => rfl
  | cons first more => by_cases hn : '\n' ∈ inner <;> simp [hn]

theorem body_layout {text : String} {inner : List Char} (h : body text.toList = .ok inner) :
    body (layout text).toList = .ok (laidOut inner) := by
  rw [layout, h]
  simp only [String.toList_ofList, layoutBody_eq_block, body_block]

theorem exists_eq_dropBlankEnds (ls : List (List Char)) :
    ∃ pre post, (∀ l ∈ pre, allBlank l = true) ∧ (∀ l ∈ post, allBlank l = true) ∧
      ls = pre ++ (dropBlankEnds ls ++ post) := by
  refine ⟨ls.takeWhile allBlank, (ls.dropWhile allBlank).rtakeWhile allBlank,
    fun l hl => List.mem_takeWhile_imp hl, fun l hl => List.mem_rtakeWhile_imp hl, ?_⟩
  have hends : dropBlankEnds ls = (ls.dropWhile allBlank).rdropWhile allBlank := rfl
  rw [hends, List.rdropWhile_append_rtakeWhile, List.takeWhile_append_dropWhile]

theorem mem_bodyLines {inner l : List Char} (h : l ∈ bodyLines inner) :
    l <:+: inner ∧ '\n' ∉ l ∧ trimEnd l = l := by
  obtain ⟨pre, post, -, -, hsplit⟩ :=
    exists_eq_dropBlankEnds ((contentLines inner).map trimEnd)
  have hmem : l ∈ (contentLines inner).map trimEnd := by
    rw [hsplit]
    exact List.mem_append_right pre (List.mem_append_left post h)
  obtain ⟨content, hcontent, rfl⟩ := List.mem_map.1 hmem
  obtain ⟨hpart, hnot⟩ := mem_contentLines hcontent
  have hstart : trimEnd content <+: content := List.rdropWhile_prefix _ _
  refine ⟨hstart.isInfix.trans hpart, fun hn => hnot (hstart.subset hn), ?_⟩
  exact List.rdropWhile_idempotent isBlank content

theorem foldl_leavesOpen_blank {ls : List (List Char)} (h : ∀ l ∈ ls, allBlank l = true)
    (inside : Bool) : ls.foldl leavesOpen inside = inside := by
  induction ls with
  | nil => rfl
  | cons l ls ih =>
    rw [List.foldl_cons, leavesOpen_of_blank (h l List.mem_cons_self)]
    exact ih fun k hk => h k (List.mem_cons_of_mem l hk)

theorem foldl_leavesOpen_bodyLines (inside : Bool) (inner : List Char) :
    (bodyLines inner).foldl leavesOpen inside = leavesOpen inside inner := by
  obtain ⟨pre, post, hpre, hpost, hsplit⟩ :=
    exists_eq_dropBlankEnds ((contentLines inner).map trimEnd)
  have htrimmed : ((contentLines inner).map trimEnd).foldl leavesOpen inside =
      leavesOpen inside inner := by
    rw [leavesOpen_contentLines, List.foldl_map]
    simp only [leavesOpen_trimEnd]
  rw [← htrimmed, hsplit, List.foldl_append, List.foldl_append, foldl_leavesOpen_blank hpre,
    foldl_leavesOpen_blank hpost, bodyLines]

theorem ofContent?_bodyLines (inner : List Char) :
    ofContent? (bodyLines inner) = ofContent? (contentLines inner) := by
  obtain ⟨pre, post, hpre, hpost, hsplit⟩ :=
    exists_eq_dropBlankEnds ((contentLines inner).map trimEnd)
  rw [← ofContent?_map trim_trimEnd (contentLines inner), hsplit, ofContent?_blanks_append hpre,
    ofContent?_append_blanks hpost, bodyLines]

def decoration (line : List Char) : List Char :=
  if allBlank line then [' ', '*'] else [' ', '*', ' '] ++ line

def decorated (line : List Char) : List Char :=
  if allBlank line then [] else line

theorem decorate_eq_append (line : List Char) : decorate line = decoration line ++ ['\n'] := by
  unfold decorate decoration
  split <;> simp

theorem undecorate_decoration (line : List Char) :
    undecorate (decoration line) = decorated line := by
  have hempty : Decorated ([' '] ++ '*' :: []) [] := .starred (by decide) (by simp)
  have hspaced : Decorated ([' '] ++ '*' :: ' ' :: line) line := .spaced (by decide)
  unfold decoration decorated
  split
  · exact hempty.undecorate_eq
  · exact hspaced.undecorate_eq

theorem trim_decorated (line : List Char) : trim (decorated line) = trim line := by
  unfold decorated
  split
  · next h => rw [trim_eq_nil_iff.2 h]; rfl
  · rfl

theorem leavesOpen_decorated (inside : Bool) (line : List Char) :
    leavesOpen inside (decorated line) = leavesOpen inside line := by
  unfold decorated
  split
  · next h => rw [leavesOpen_of_blank h, leavesOpen]
  · rfl

/-- No carriage return is lost, since a decorated line does not end in white space. -/
theorem dropReturn_decoration {line : List Char} (h : trimEnd line = line) :
    dropReturn (decoration line) = decoration line := by
  have hend : trimEnd (decoration line) = decoration line := by
    unfold decoration
    split
    · decide
    · next hblank => rw [trimEnd_append_of_not_blank (by simpa using hblank), h]
  rcases eq_dropReturn_or (decoration line) with hself | hreturn
  · exact hself.symm
  · have htrim : decoration line = trimEnd (dropReturn (decoration line)) := by
      have hdrop := trimEnd_append_blank (show allBlank ['\r'] = true by decide)
        (dropReturn (decoration line))
      rwa [← hreturn, hend] at hdrop
    have hshort := (List.rdropWhile_prefix isBlank (dropReturn (decoration line))).length_le
    have hlong := congrArg List.length (htrim.symm.trans hreturn)
    simp only [trimEnd_eq_rdropWhile, List.length_append, List.length_singleton] at hlong
    omega

section
variable {f : List Char → List Char} {ls : List (List Char)}

theorem contentLines_flatMap (h : ∀ l ∈ ls, '\n' ∉ f l ∧ dropReturn (f l) = f l) :
    contentLines (ls.flatMap (fun l => f l ++ ['\n']) ++ [' ']) =
      ls.map (fun l => undecorate (f l)) ++ [[]] := by
  induction ls with
  | nil =>
    have hlast : contentLines [' '] = [[]] := by decide
    exact hlast
  | cons l ls ih =>
    obtain ⟨hnot, hreturn⟩ := h l List.mem_cons_self
    have hrest := ih fun k hk => h k (List.mem_cons_of_mem l hk)
    rw [contentLines] at hrest ⊢
    rw [List.flatMap_cons, List.append_assoc, List.append_assoc, List.singleton_append,
      lines_append_newline hnot, List.map_cons, hrest, hreturn]
    rfl

theorem flatMap_decorate (ls : List (List Char)) :
    ls.flatMap decorate = ls.flatMap fun l => decoration l ++ ['\n'] :=
  congrArg (List.flatMap · ls) (funext decorate_eq_append)

theorem contentLines_decorate (h : ∀ l ∈ ls, '\n' ∉ l ∧ trimEnd l = l) :
    contentLines (ls.flatMap decorate ++ [' ']) = ls.map decorated ++ [[]] := by
  have hlines : ∀ l ∈ ls, '\n' ∉ decoration l ∧ dropReturn (decoration l) = decoration l := by
    intro l hl
    obtain ⟨hnot, hend⟩ := h l hl
    refine ⟨?_, dropReturn_decoration hend⟩
    unfold decoration
    split <;> simp [hnot]
  rw [flatMap_decorate, contentLines_flatMap hlines]
  simp only [undecorate_decoration]

theorem contentLines_newline_decorate (h : ∀ l ∈ ls, '\n' ∉ l ∧ trimEnd l = l) :
    contentLines ([] ++ '\n' :: (ls.flatMap decorate ++ [' '])) =
      [] :: (ls.map decorated ++ [[]]) := by
  have hlines := contentLines_decorate h
  rw [contentLines] at hlines ⊢
  rw [lines_append_newline (by simp), List.map_cons, hlines]
  rfl

end

theorem isChain_append_separator {a b c : Char} {as bs : List Char} (hfirst : c ≠ a)
    (hsecond : c ≠ b) (ha : as.IsChain (Apart a b)) (hb : bs.IsChain (Apart a b)) :
    (as ++ c :: bs).IsChain (Apart a b) := by
  have hcons : (c :: bs).IsChain (Apart a b) := by
    cases bs with
    | nil => exact List.isChain_singleton c
    | cons d bs => exact List.isChain_cons_cons.2 ⟨fun hc => hfirst hc.1, hb⟩
  refine ha.append hcons fun x _ y hy hxy => hsecond ?_
  rw [List.head?_cons, Option.mem_some_iff] at hy
  exact hy.trans hxy.2

theorem isChain_flatMap {f : List Char → List Char} {ls : List (List Char)}
    (h : ∀ l ∈ ls, (f l).IsChain (Apart '*' '/')) :
    (ls.flatMap (fun l => f l ++ ['\n']) ++ [' ']).IsChain (Apart '*' '/') := by
  induction ls with
  | nil => exact List.isChain_singleton ' '
  | cons l ls ih =>
    have hl := h l List.mem_cons_self
    have hrest := ih fun k hk => h k (List.mem_cons_of_mem l hk)
    rw [List.flatMap_cons, List.append_assoc, List.append_assoc, List.singleton_append]
    exact isChain_append_separator (by decide) (by decide) hl hrest

theorem isChain_starred {l : List Char} (h : l.IsChain (Apart '*' '/')) :
    ([' ', '*', ' '] ++ l).IsChain (Apart '*' '/') := by
  have hstar : [' ', '*'].IsChain (Apart '*' '/') := by simp [Apart]
  exact isChain_append_separator (by decide) (by decide) hstar h

theorem isChain_decorate {ls : List (List Char)}
    (h : ∀ l ∈ ls, l.IsChain (Apart '*' '/')) :
    (ls.flatMap decorate ++ [' ']).IsChain (Apart '*' '/') := by
  rw [flatMap_decorate]
  refine isChain_flatMap fun l hl => ?_
  unfold decoration
  split
  · simp [Apart]
  · exact isChain_starred (h l hl)

/-- The comment is on one line, and its text still begins with `*` behind the decoration. -/
def StarredLine (text : String) : Prop :=
  ∃ inner rest, body text.toList = .ok inner ∧ '\n' ∉ inner ∧
    trim (undecorate inner) = '*' :: rest

theorem starredLine_iff {text : String} {inner : List Char} (h : body text.toList = .ok inner) :
    StarredLine text ↔ '\n' ∉ inner ∧ ∃ rest, trim (undecorate inner) = '*' :: rest := by
  simp [StarredLine, h]

section
variable {inner : List Char}

theorem parse_layout_of_laidOut {text : String} {doc : DocComment}
    (hbody : body text.toList = .ok inner) :
    parse (layout text) = .ok doc ↔ occurs ['*', '/'] (laidOut inner) = false ∧
      leavesOpen false (laidOut inner) = false ∧
      ofContent? (contentLines (laidOut inner)) = some doc := by
  rw [parse_eq_ok_iff, body_layout hbody]
  simp

structure ReadsAlike (new old : List Char) : Prop where
  noTerminator : old.IsChain (Apart '*' '/') → new.IsChain (Apart '*' '/')
  inlineTags : leavesOpen false new = leavesOpen false old
  content : ofContent? (contentLines new) = ofContent? (contentLines old)

theorem parse_layout_of_readsAlike {text : String} {doc : DocComment}
    (hbody : body text.toList = .ok inner) (h : parse text = .ok doc)
    (halike : ReadsAlike (laidOut inner) inner) : parse (layout text) = .ok doc := by
  obtain ⟨inner', hbody', hoccurs, hopen, hdoc⟩ := parse_eq_ok_iff.1 h
  obtain rfl : inner = inner' := Except.ok.inj (hbody.symm.trans hbody')
  rw [parse_layout_of_laidOut hbody, occurs_pair_eq_false_iff]
  rw [occurs_pair_eq_false_iff] at hoccurs
  exact ⟨halike.noTerminator hoccurs, halike.inlineTags.trans hopen, halike.content.trans hdoc⟩

theorem laidOut_blank (h : bodyLines inner = []) : laidOut inner = [' '] := by
  rw [laidOut, h]

theorem readsAlike_laidOut_blank (h : bodyLines inner = []) :
    ReadsAlike (laidOut inner) inner := by
  have hout := laidOut_blank h
  refine ⟨fun _ => hout ▸ List.isChain_singleton ' ', ?_, ?_⟩
  · rw [hout, ← foldl_leavesOpen_bodyLines false inner, h]
    rfl
  · rw [hout, ← ofContent?_bodyLines inner, h]
    rfl

theorem laidOut_lines (h : bodyLines inner ≠ []) (hn : '\n' ∈ inner) :
    laidOut inner = [] ++ '\n' :: ((bodyLines inner).flatMap decorate ++ [' ']) := by
  rw [laidOut]
  cases hb : bodyLines inner with
  | nil => exact absurd hb h
  | cons first more => simp [hn]

theorem contentLines_laidOut_lines (h : bodyLines inner ≠ []) (hn : '\n' ∈ inner) :
    contentLines (laidOut inner) = [] :: ((bodyLines inner).map decorated ++ [[]]) := by
  rw [laidOut_lines h hn]
  exact contentLines_newline_decorate fun l hl => (mem_bodyLines hl).2

theorem readsAlike_laidOut_lines (h : bodyLines inner ≠ []) (hn : '\n' ∈ inner) :
    ReadsAlike (laidOut inner) inner := by
  refine ⟨fun hchain => ?_, ?_, ?_⟩
  · rw [laidOut_lines h hn]
    refine isChain_append_separator (by decide) (by decide) List.isChain_nil ?_
    exact isChain_decorate fun l hl => hchain.infix (mem_bodyLines hl).1
  · rw [leavesOpen_contentLines, contentLines_laidOut_lines h hn, ← foldl_leavesOpen_bodyLines,
      List.foldl_cons, List.foldl_append, List.foldl_map]
    simp only [leavesOpen_decorated, List.foldl_cons, List.foldl_nil, leavesOpen]
  · rw [contentLines_laidOut_lines h hn, ofContent?_blank_cons rfl, ofContent?_append_blank rfl,
      ofContent?_map trim_decorated, ofContent?_bodyLines]

theorem bodyLines_one_line (hn : '\n' ∉ inner) :
    bodyLines inner =
      if allBlank (undecorate inner) then [] else [trimEnd (undecorate inner)] := by
  cases inner with
  | nil => rfl
  | cons c cs =>
    have hcontent := contentLines_of_not_mem hn (List.cons_ne_nil c cs)
    have hblank : allBlank (trimEnd (undecorate (c :: cs))) = allBlank (undecorate (c :: cs)) := by
      rw [Bool.eq_iff_iff, ← trim_eq_nil_iff, trim_trimEnd, trim_eq_nil_iff]
    rw [bodyLines, hcontent]
    cases hb : allBlank (undecorate (c :: cs)) <;>
      simp [dropBlankEnds, hblank, hb]

theorem bodyLines_blank_line (hn : '\n' ∉ inner) (h : trim (undecorate inner) = []) :
    bodyLines inner = [] := by
  rw [bodyLines_one_line hn, trim_eq_nil_iff.1 h]
  rfl

theorem allBlank_undecorate_of_text {c : Char} {rest : List Char}
    (h : trim (undecorate inner) = c :: rest) : allBlank (undecorate inner) = false := by
  rw [Bool.eq_false_iff, Ne, ← trim_eq_nil_iff, h]
  simp

theorem laidOut_one_line (hn : '\n' ∉ inner) {c : Char} {rest : List Char}
    (h : trim (undecorate inner) = c :: rest) :
    laidOut inner = [] ++ ' ' :: (c :: rest ++ [' ']) := by
  have hlines : bodyLines inner = [trimEnd (undecorate inner)] := by
    rw [bodyLines_one_line hn, allBlank_undecorate_of_text h]
    rfl
  simp [laidOut, hlines, hn, trim_trimEnd, h]

theorem contentLines_of_text (hn : '\n' ∉ inner) {c : Char} {rest : List Char}
    (h : trim (undecorate inner) = c :: rest) : contentLines inner = [undecorate inner] := by
  refine contentLines_of_not_mem hn ?_
  rintro rfl
  exact absurd (allBlank_undecorate_of_text h) (by decide)

theorem newline_not_mem_laidOut (hn : '\n' ∉ inner) {c : Char} {rest : List Char}
    (h : trim (undecorate inner) = c :: rest) : '\n' ∉ laidOut inner := by
  have hsubset := ((trim_isInfix _).trans (undecorate_suffix inner).isInfix).subset
  have htext : '\n' ∉ c :: rest := fun hmem => hn (hsubset (h ▸ hmem))
  simpa [laidOut_one_line hn h] using htext

/-- What is read of a comment that was laid out on one line: a second `*` goes with the space. -/
theorem undecorate_laidOut_one_line (hn : '\n' ∉ inner) {c : Char} {rest : List Char}
    (h : trim (undecorate inner) = c :: rest) :
    undecorate (laidOut inner) =
      dropOne ' ' (if c = '*' then rest ++ [' '] else c :: rest ++ [' ']) := by
  have hc : isBlank c = false := not_blank_of_trim_eq_cons h
  rw [laidOut_one_line hn h, undecorate, trimStart, List.nil_append,
    List.dropWhile_cons_of_pos isBlank_space, List.cons_append,
    List.dropWhile_cons_of_neg (by simp [hc])]
  rfl

theorem contentLines_laidOut_one_line (hn : '\n' ∉ inner) {c : Char} {rest : List Char}
    (h : trim (undecorate inner) = c :: rest) :
    contentLines (laidOut inner) =
      [dropOne ' ' (if c = '*' then rest ++ [' '] else c :: rest ++ [' '])] := by
  have hne : laidOut inner ≠ [] := by simp [laidOut_one_line hn h]
  rw [contentLines_of_not_mem (newline_not_mem_laidOut hn h) hne, undecorate_laidOut_one_line hn h]

end

theorem trim_dropOne_space (cs : List Char) : trim (dropOne ' ' cs) = trim cs := by
  cases cs with
  | nil => rfl
  | cons c cs =>
    by_cases hc : c = ' '
    · subst hc
      simpa [dropOne] using (trim_blank_append (show allBlank [' '] = true by decide) cs).symm
    · simp [dropOne, hc]

theorem ofContent?_text_line {l : List Char} (h : (trim l).head? ≠ some '@') :
    ofContent? [l] = some ⟨String.ofList (trim l), []⟩ := by
  simp [ofContent?, line?_of_text h, ofLines, gather, joinLines, join, trim_trim]

theorem readTag_eq_ok {number : Nat} {source : List Char} {line : Line}
    (h : readTag number source = .ok line) :
    ∃ name argument content, line = .tag name argument content := by
  unfold readTag at h
  dsimp only at h
  split at h
  · cases h
  · split at h
    · exact ⟨_, _, _, (Except.ok.inj h).symm⟩
    · split at h
      · exact ⟨_, _, _, (Except.ok.inj h).symm⟩
      · split at h
        · cases h
        · exact ⟨_, _, _, (Except.ok.inj h).symm⟩

theorem eq_trim_of_ofContent?_line {l : List Char} {description : String}
    (h : ofContent? [l] = some ⟨description, []⟩) : description = String.ofList (trim l) := by
  by_cases hat : (trim l).head? = some '@'
  · -- a line that starts a tag leaves a tag behind
    obtain ⟨source, hsource⟩ := List.head?_eq_some_iff.1 hat
    rw [ofContent?, List.mapM_cons, line?_of_tag hsource] at h
    cases hr : readTag 1 source with
    | error f => simp [hr, Except.toOption] at h
    | ok line =>
      obtain ⟨name, argument, content, rfl⟩ := readTag_eq_ok hr
      simp [hr, Except.toOption, ofLines, gather] at h
  · rw [ofContent?_text_line hat] at h
    exact (DocComment.mk.inj (Option.some.inj h)).1.symm

theorem ofContent?_singleton_congr {l k : List Char} (h : trim l = trim k) :
    ofContent? [l] = ofContent? [k] := by
  simp [ofContent?, line?_congr h]

theorem ofContent?_starred_ne {l k rest : List Char} {doc : DocComment}
    (hl : trim l = '*' :: rest) (hdoc : ofContent? [l] = some doc) (hk : trim k = trim rest) :
    ofContent? [k] ≠ some doc := by
  intro hread
  have htext : ofContent? [l] = some ⟨String.ofList ('*' :: rest), []⟩ := by
    rw [ofContent?_text_line (by simp [hl]), hl]
  obtain rfl : (⟨String.ofList ('*' :: rest), []⟩ : DocComment) = doc :=
    Option.some.inj (htext.symm.trans hdoc)
  have heq : '*' :: rest = trim rest := by
    rw [← hk]
    exact String.ofList_injective (eq_trim_of_ofContent?_line hread)
  have hlong := congrArg List.length heq
  have hshort := (trim_isInfix rest).length_le
  rw [List.length_cons] at hlong
  omega

theorem readsAlike_laidOut_one_line {inner : List Char} (hn : '\n' ∉ inner) {c : Char}
    {rest : List Char} (h : trim (undecorate inner) = c :: rest) (hc : c ≠ '*') :
    ReadsAlike (laidOut inner) inner := by
  refine ⟨fun hchain => ?_, ?_, ?_⟩
  · have htext : (c :: rest).IsChain (Apart '*' '/') := by
      rw [← h]
      exact hchain.infix ((trim_isInfix _).trans (undecorate_suffix inner).isInfix)
    rw [laidOut_one_line hn h]
    exact isChain_append_separator (by decide) (by decide) List.isChain_nil
      (isChain_append_separator (by decide) (by decide) htext List.isChain_nil)
  · have htrim : leavesOpen false (trim (undecorate inner)) = leavesOpen false inner := by
      rw [leavesOpen_trim, leavesOpen_undecorate]
    rw [laidOut_one_line hn h, List.nil_append, leavesOpen_cons (by decide) (by decide),
      leavesOpen_append_blank (by decide), ← h, htrim]
  · rw [contentLines_laidOut_one_line hn h, contentLines_of_text hn h, if_neg hc]
    refine ofContent?_singleton_congr ?_
    rw [trim_dropOne_space, trim_append_blank (by decide), ← h, trim_trim]

theorem parse_layout_eq_ok_iff {text : String} {doc : DocComment} (h : parse text = .ok doc) :
    parse (layout text) = .ok doc ↔ ¬ StarredLine text := by
  obtain ⟨inner, hbody, -, -, hdoc⟩ := parse_eq_ok_iff.1 h
  rw [starredLine_iff hbody]
  by_cases hn : '\n' ∈ inner
  · refine iff_of_true (parse_layout_of_readsAlike hbody h ?_) fun hline => hline.1 hn
    by_cases hlines : bodyLines inner = []
    · exact readsAlike_laidOut_blank hlines
    · exact readsAlike_laidOut_lines hlines hn
  · cases htext : trim (undecorate inner) with
    | nil =>
      have hlines := bodyLines_blank_line hn htext
      exact iff_of_true (parse_layout_of_readsAlike hbody h (readsAlike_laidOut_blank hlines))
        fun ⟨_, rest, hrest⟩ => nomatch hrest
    | cons c rest =>
      by_cases hc : c = '*'
      · subst hc
        refine iff_of_false (fun hread => ?_) fun hnot => hnot ⟨hn, rest, rfl⟩
        obtain ⟨-, -, hread⟩ := (parse_layout_of_laidOut hbody).1 hread
        rw [contentLines_laidOut_one_line hn htext, if_pos rfl] at hread
        rw [contentLines_of_text hn htext] at hdoc
        refine ofContent?_starred_ne htext hdoc ?_ hread
        rw [trim_dropOne_space, trim_append_blank (by decide)]
      · refine iff_of_true (parse_layout_of_readsAlike hbody h ?_) ?_
        · exact readsAlike_laidOut_one_line hn htext hc
        · rintro ⟨-, rest', hrest⟩
          exact hc (List.cons.inj hrest).1

/-- A comment keeps its meaning in a new layout, and in a class that has taken it, if and only if
it is no starred line. -/
theorem layout_keeps_meaning_iff {text : String} {doc : DocComment} (h : parse text = .ok doc) :
    (parse (layout text) = .ok doc ↔ ¬ StarredLine text) ∧
      ∀ (c d : ClassModel) (e : Edit), e.comment = text → c.applyEdit e = (.ok (), d) →
        ∃ d' m stored, d.reformat e.method = (.ok (), d') ∧ d'.methods[e.method]? = some m ∧
          m.comment = some stored ∧ (parse stored = .ok doc ↔ ¬ StarredLine text) := by
  refine ⟨parse_layout_eq_ok_iff h, ?_⟩
  rintro c d e rfl hd
  obtain ⟨m, hm, -, -⟩ := ClassModel.applyEdit_eq_ok_iff.1 hd
  refine ⟨_, m.documentedBy e, layout e.comment, ClassModel.reformat_of_applyEdit hd, ?_, rfl,
    parse_layout_eq_ok_iff h⟩
  simp [hm]

theorem layout_keeps_getter_comment :
    let text := "/**\n   *  The {@code bar}.  \n*\n * @return bar\n\n */"
    let doc : DocComment := ⟨"The {@code bar}.", [⟨"return", none, "bar"⟩]⟩
    parse text = .ok doc ∧ (parse (layout text) = .ok doc ↔ ¬ StarredLine text) := by
  intro text doc
  have h : parse text = .ok doc := by decide +kernel
  exact ⟨h, (layout_keeps_meaning_iff h).1⟩

theorem layout_loses_star :
    parse "/** **x */" = .ok ⟨"*x", []⟩ ∧ parse (layout "/** **x */") = .ok ⟨"x", []⟩ ∧
      parse "/** **@ */" = .ok ⟨"*@", []⟩ ∧
        parse (layout "/** **@ */") = .error (.namelessTag 1) := by
  decide +kernel

end BeanDoc.DocComment
