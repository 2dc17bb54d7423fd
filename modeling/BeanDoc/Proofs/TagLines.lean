import BeanDoc.Proofs.ContentLines

/-! What a content line says. A line that starts with `@` is a tag with its name, for some tags with
a word that says what the tag is about, and with the beginning of its text. Any other line is
text. -/

namespace BeanDoc.Text

section
variable {p : Char → Bool} {as cs : List Char}

theorem cutWhere_of_none (h : ∀ c ∈ as, p c = false) : cutWhere p as = (as, []) := by
  have hnot : ∀ c ∈ as, (!p c) = true := fun c hc => by rw [h c hc]; rfl
  rw [cutWhere, List.takeWhile_eq_self_iff.2 hnot, List.dropWhile_eq_nil_iff.2 hnot]
  rfl

theorem cutWhere_append {b : Char} (h : ∀ c ∈ as, p c = false) (hb : p b = true)
    (rest : List Char) : cutWhere p (as ++ b :: rest) = (as, rest) := by
  have hnot : ∀ c ∈ as, (!p c) = true := fun c hc => by rw [h c hc]; rfl
  rw [cutWhere, List.takeWhile_append_of_pos hnot, List.dropWhile_append_of_pos hnot]
  simp [hb]

theorem cutWhere_cases (p : Char → Bool) (cs : List Char) :
    (∀ c ∈ (cutWhere p cs).1, p c = false) ∧
      (cs = (cutWhere p cs).1 ∧ (cutWhere p cs).2 = [] ∨
        ∃ b, p b = true ∧ cs = (cutWhere p cs).1 ++ b :: (cutWhere p cs).2) := by
  have hbefore : ∀ c ∈ cs.takeWhile (!p ·), p c = false := by
    intro c hc
    simpa using List.mem_takeWhile_imp hc
  have hsplit : cs.takeWhile (!p ·) ++ cs.dropWhile (!p ·) = cs := List.takeWhile_append_dropWhile
  refine ⟨hbefore, ?_⟩
  unfold cutWhere
  cases hd : cs.dropWhile (!p ·) with
  | nil =>
    rw [hd, List.append_nil] at hsplit
    exact .inl ⟨hsplit.symm, rfl⟩
  | cons b rest =>
    have hb := List.head?_dropWhile_not (!p ·) cs
    rw [hd] at hsplit hb
    exact .inr ⟨b, by simpa using hb, hsplit.symm⟩

theorem cutWhere_fst_isPrefix (p : Char → Bool) (cs : List Char) : (cutWhere p cs).1 <+: cs :=
  List.takeWhile_prefix _

theorem cutWhere_snd_isSuffix (p : Char → Bool) (cs : List Char) : (cutWhere p cs).2 <:+ cs :=
  (List.tail_suffix _).trans (List.dropWhile_suffix _)

end

theorem cutWhere_trim_eq_nil_iff (cs : List Char) :
    (cutWhere isBlank (trim cs)).1 = [] ↔ trim cs = [] := by
  cases ht : trim cs with
  | nil => simp [cutWhere]
  | cons c rest => simp [cutWhere, not_blank_of_trim_eq_cons ht]

theorem not_blank_of_isAlphanumeric {c : Char} (h : isAlphanumeric c = true) :
    isBlank c = false := by
  let blanks : List Nat := [9, 10, 11, 12, 13, 0x20, 0x85, 0xA0, 0x1680, 0x2000, 0x2001, 0x2002,
    0x2003, 0x2004, 0x2005, 0x2006, 0x2007, 0x2008, 0x2009, 0x200A, 0x2028, 0x2029, 0x202F, 0x205F,
    0x3000]
  have hnone : ∀ n ∈ blanks, isAlphanumeric (Char.ofNat n) = false := by decide +kernel
  by_contra hblank
  have hmem : c.toNat ∈ blanks := by
    simp only [isBlank, Bool.not_eq_false, Bool.or_eq_true, Bool.and_eq_true, decide_eq_true_eq,
      beq_iff_eq] at hblank
    simp only [blanks, List.mem_cons, List.not_mem_nil, or_false]
    omega
  have hfalse := hnone c.toNat hmem
  rw [Char.ofNat_toNat, h] at hfalse
  cases hfalse

end BeanDoc.Text

namespace BeanDoc.DocComment

open Text

theorem not_blank_of_isTagName {name : List Char} (h : isTagName name = true) :
    name ≠ [] ∧ ∀ c ∈ name, isBlank c = false := by
  obtain ⟨hne, hall⟩ : name ≠ [] ∧ ∀ c ∈ name, isAlphanumeric c = true := by
    simpa [isTagName] using h
  exact ⟨hne, fun c hc => not_blank_of_isAlphanumeric (hall c hc)⟩

theorem takesArgument_of_needsArgument {name : List Char} (h : needsArgument name = true) :
    takesArgument name = true := by
  rw [eq_of_beq h]
  rfl

theorem readTag_toOption (number : Nat) (source : List Char) :
    (readTag number source).toOption =
      let name := (cutWhere isBlank source).1
      let rest := trim (cutWhere isBlank source).2
      if isTagName name = false then none
      else if takesArgument name = false then some (.tag name none rest)
      else if rest = [] then if needsArgument name then none else some (.tag name none [])
      else some (.tag name (some (cutWhere isBlank rest).1) (trim (cutWhere isBlank rest).2)) := by
  have hword := cutWhere_trim_eq_nil_iff (cutWhere isBlank source).2
  unfold readTag
  dsimp only
  generalize trim (cutWhere isBlank source).2 = rest at hword ⊢
  generalize (cutWhere isBlank source).1 = name
  cases isTagName name with
  | false => rfl
  | true =>
    cases takesArgument name with
    | false => rfl
    | true =>
      by_cases hrest : rest = []
      · subst hrest
        cases needsArgument name <;> rfl
      · have hne : (cutWhere isBlank rest).1 ≠ [] := fun hnil => hrest (hword.1 hnil)
        simp [hrest, hne, Except.toOption]

theorem readTag_cases {number : Nat} {source name rest : List Char} {line : Line}
    (h : (readTag number source).toOption = some line) (hname : (cutWhere isBlank source).1 = name)
    (hrest : trim (cutWhere isBlank source).2 = rest) :
    isTagName name = true ∧
      ((line = .tag name none rest ∧ needsArgument name = false ∧
          (takesArgument name = true → rest = [])) ∨
        (line = .tag name (some (cutWhere isBlank rest).1) (trim (cutWhere isBlank rest).2) ∧
          takesArgument name = true ∧ rest ≠ [])) := by
  rw [readTag_toOption, hname, hrest] at h
  dsimp only at h
  cases htag : isTagName name with
  | false => simp [htag] at h
  | true =>
    refine ⟨rfl, ?_⟩
    cases htakes : takesArgument name with
    | false =>
      have hneeds : needsArgument name = false := by
        rw [Bool.eq_false_iff]
        intro hneeds
        rw [takesArgument_of_needsArgument hneeds] at htakes
        cases htakes
      have hline : Line.tag name none rest = line := by simpa [htag, htakes] using h
      exact .inl ⟨hline.symm, hneeds, by simp⟩
    | true =>
      by_cases hnil : rest = []
      · cases hneeds : needsArgument name with
        | true => simp [htag, htakes, hnil, hneeds] at h
        | false =>
          have hline : Line.tag name none rest = line := by
            simpa [htag, htakes, hnil, hneeds] using h
          exact .inl ⟨hline.symm, rfl, fun _ => hnil⟩
      · have hline : Line.tag name (some (cutWhere isBlank rest).1)
            (trim (cutWhere isBlank rest).2) = line := by
          simpa [htag, htakes, hnil] using h
        exact .inr ⟨hline.symm, rfl, hnil⟩

theorem readTag_eq_error_iff {number : Nat} {source : List Char} {f : Fault} :
    readTag number source = .error f ↔
      (isTagName (cutWhere isBlank source).1 = false ∧ f = .namelessTag number) ∨
      (isTagName (cutWhere isBlank source).1 = true ∧
        needsArgument (cutWhere isBlank source).1 = true ∧
        trim (cutWhere isBlank source).2 = [] ∧ f = .namelessParameter number) := by
  have hword := cutWhere_trim_eq_nil_iff (cutWhere isBlank source).2
  have htakes : needsArgument (cutWhere isBlank source).1 = true →
      takesArgument (cutWhere isBlank source).1 = true := takesArgument_of_needsArgument
  unfold readTag
  dsimp only
  generalize trim (cutWhere isBlank source).2 = rest at hword ⊢
  generalize (cutWhere isBlank source).1 = name at htakes ⊢
  cases isTagName name with
  | false => simp [eq_comm (a := f)]
  | true =>
    cases hneeds : needsArgument name with
    | false =>
      cases takesArgument name <;> by_cases hrest : (cutWhere isBlank rest).1 = [] <;> simp [hrest]
    | true =>
      by_cases hrest : (cutWhere isBlank rest).1 = []
      · obtain rfl := hword.1 hrest
        have hcut : (cutWhere isBlank []).1 = [] := rfl
        simp [htakes hneeds, hcut, eq_comm (a := f)]
      · have hne : rest ≠ [] := fun hnil => hrest (hword.2 hnil)
        simp [htakes hneeds, hrest, hne]

theorem readLine_of_text {number : Nat} {l : List Char} (h : (trim l).head? ≠ some '@') :
    readLine number l = .ok (.text (trim l)) := by
  rw [readLine]
  split
  · next source hsource => exact absurd (by rw [hsource]; rfl) h
  · rfl

theorem readLine_of_tag {number : Nat} {l source : List Char} (h : trim l = '@' :: source) :
    readLine number l = readTag number source := by
  rw [readLine, h]
  rfl

theorem line?_of_text {l : List Char} (h : (trim l).head? ≠ some '@') :
    line? l = some (.text (trim l)) := by
  rw [line?, readLine_of_text h]
  rfl

theorem line?_of_tag {l source : List Char} (h : trim l = '@' :: source) :
    line? l = (readTag 1 source).toOption := by
  rw [line?, readLine_of_tag h]

/-- A line is well formed unless it starts a tag without a proper name, or one without the word it
needs. -/
theorem line?_isSome_iff {l : List Char} :
    (line? l).isSome = true ↔ ∀ source, trim l = '@' :: source →
      isTagName (cutWhere isBlank source).1 = true ∧
        (needsArgument (cutWhere isBlank source).1 = true →
          trim (cutWhere isBlank source).2 ≠ []) := by
  by_cases hat : (trim l).head? = some '@'
  · obtain ⟨source, hsource⟩ := List.head?_eq_some_iff.1 hat
    have hread : (readTag 1 source).toOption.isSome = true ↔ ∀ f, readTag 1 source ≠ .error f := by
      cases readTag 1 source <;> simp [Except.toOption]
    rw [line?_of_tag hsource, hread]
    simp only [hsource, List.cons.injEq, true_and, forall_eq', Ne, readTag_eq_error_iff]
    cases isTagName (cutWhere isBlank source).1 <;>
      by_cases hrest : trim (cutWhere isBlank source).2 = [] <;> simp [hrest]
  · rw [line?_of_text hat]
    refine iff_of_true rfl fun source hsource => absurd ?_ hat
    rw [hsource]
    rfl

end BeanDoc.DocComment
