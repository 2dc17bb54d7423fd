import BeanDoc.Json.Decoder
import BeanDoc.Json.Printer

/-! Reading what was printed. A reader takes the printed form of a string, a name or a number for
what it stands for, whatever stands behind it, and an object on one line for the record that its
members set. -/

namespace BeanDoc.Json

open Input

def AllSpace (cs : List Char) : Prop :=
  ∀ c ∈ cs, isSpace c = true

def EndsNumber (rest : List Char) : Prop :=
  ∀ c ∈ rest.head?, c.isDigit = false ∧ c ≠ '.' ∧ c ≠ 'e' ∧ c ≠ 'E'

/-- Behind white space the reader takes the text for the thing, and stops behind it. -/
def Reads {α : Type} (read : Reader α) (text : List Char) (a : α) : Prop :=
  ∀ space rest p, AllSpace space → EndsNumber rest →
    ∃ q, read ⟨space ++ (text ++ rest), p⟩ = .ok (a, ⟨rest, q⟩)

theorem exists_skipSpace {space : List Char} {c : Char} (hspace : AllSpace space)
    (hc : isSpace c = false) (cs : List Char) (p : Place) :
    ∃ q, (⟨space ++ c :: cs, p⟩ : Input).skipSpace = ⟨c :: cs, q⟩ := by
  refine ⟨(space ++ c :: cs).takeWhile isSpace |>.foldl Place.after p, ?_⟩
  simp only [skipSpace, dropWhile, Input.mk.injEq, and_true]
  rw [List.dropWhile_append_of_pos hspace]
  exact List.dropWhile_cons_of_neg (by simp [hc])

theorem allSpace_nil : AllSpace [] := by
  simp [AllSpace]

theorem endsNumber_of_isSpace {c : Char} (h : isSpace c = true) :
    c.isDigit = false ∧ c ≠ '.' ∧ c ≠ 'e' ∧ c ≠ 'E' := by
  simp only [isSpace, Bool.or_eq_true, beq_iff_eq] at h
  rcases h with ((rfl | rfl) | rfl) | rfl <;> decide

theorem endsNumber_append {space : List Char} {c : Char} (hspace : AllSpace space)
    (hc : c.isDigit = false ∧ c ≠ '.' ∧ c ≠ 'e' ∧ c ≠ 'E') (rest : List Char) :
    EndsNumber (space ++ c :: rest) := by
  intro b hb
  cases space with
  | nil =>
    obtain rfl : c = b := by simpa using hb
    exact hc
  | cons a space =>
    obtain rfl : a = b := by simpa using hb
    exact endsNumber_of_isSpace (hspace a List.mem_cons_self)

section strings

variable {fuel : Nat} {acc rest : List Char} {p : Place} {c : Char}

theorem readChars_plain (hquote : c ≠ '"') (hslash : c ≠ '\\') (hcontrol : ¬ c.toNat < 0x20) :
    readChars (fuel + 1) acc ⟨c :: rest, p⟩ = readChars fuel (c :: acc) ⟨rest, p.after c⟩ := by
  rw [readChars]
  split
  · next h => cases h
  · next h => exact absurd (List.cons.inj h).1 hquote
  · next h => exact absurd (List.cons.inj h).1 hslash
  · next h =>
    obtain ⟨rfl, -⟩ := List.cons.inj h
    rw [if_neg hcontrol]
    rfl

theorem le_foldl_utf8Size (cs : List Char) (n : Nat) :
    n ≤ cs.foldl (fun n c => n + c.utf8Size) n := by
  induction cs generalizing n with
  | nil => exact Nat.le_refl n
  | cons c cs ih => exact Nat.le_trans (Nat.le_add_right n _) (ih _)

theorem exists_readHex {a b d : Char} {n : Nat} (h : ∀ x ∈ [a, b, c, d], x.utf8Size = 1)
    (hn : Text.hexNumber? [a, b, c, d] = some n) (rest : List Char) (p : Place) :
    ∃ q, readHex ⟨a :: b :: c :: d :: rest, p⟩ = .ok (n, ⟨rest, q⟩) := by
  simp only [List.forall_mem_cons] at h
  obtain ⟨ha, hb, hc, hd, -⟩ := h
  have hsize : ¬ (⟨a :: b :: c :: d :: rest, p⟩ : Input).size < 4 := by
    simpa [size, ha, hb, hc, hd] using le_foldl_utf8Size rest 4
  have hbytes : (⟨a :: b :: c :: d :: rest, p⟩ : Input).bytes 4 =
      ((((p.after a).after b).after c).after d,
        some ⟨rest, (((p.after a).after b).after c).after d⟩) := by
    simp [bytes, bytesFrom, ha, hb, hc, hd]
  have htake : (a :: b :: c :: d :: rest).take ((a :: b :: c :: d :: rest).length - rest.length) =
      [a, b, c, d] := by
    rw [show (a :: b :: c :: d :: rest).length - rest.length = 4 by simp; omega]
    rfl
  refine ⟨(((p.after a).after b).after c).after d, ?_⟩
  simp only [readHex, if_neg hsize, hbytes, htake, hn]

theorem hexDigit_all {p : Char → Bool} (h : "0123456789abcdef".toList.all p = true) (n : Nat) :
    p (hexDigit n) = true := by
  rw [List.all_eq_true] at h
  apply h
  unfold hexDigit
  rw [List.getD_eq_getElem?_getD]
  cases hn : "0123456789abcdef".toList[n]? with
  | none => decide
  | some c => exact List.mem_of_getElem? hn

theorem hexDigit?_hexDigit {n : Nat} (hn : n < 16) : Text.hexDigit? (hexDigit n) = some n := by
  have hall : ((List.range 16).all fun k => Text.hexDigit? (hexDigit k) == some k) = true := by
    decide
  exact beq_iff_eq.1 (List.all_eq_true.1 hall n (List.mem_range.2 hn))

theorem exists_readUnicode {n : Nat} (hn : n < 0x20) (rest : List Char) (p : Place) :
    ∃ q, readUnicode ⟨'0' :: '0' :: hexDigit (n / 16) :: hexDigit (n % 16) :: rest, p⟩ =
      .ok (Char.ofNat n, ⟨rest, q⟩) := by
  have hsize : ∀ k, (hexDigit k).utf8Size = 1 := fun k =>
    beq_iff_eq.1 (hexDigit_all (p := fun c => c.utf8Size == 1) (by decide) k)
  have hsizes : ∀ x ∈ ['0', '0', hexDigit (n / 16), hexDigit (n % 16)], x.utf8Size = 1 := by
    simp [hsize, show '0'.utf8Size = 1 from rfl]
  have hnumber : Text.hexNumber? ['0', '0', hexDigit (n / 16), hexDigit (n % 16)] = some n := by
    have hzero : Text.hexDigit? '0' = some 0 := by decide
    have hhigh := hexDigit?_hexDigit (by omega : n / 16 < 16)
    have hlow := hexDigit?_hexDigit (by omega : n % 16 < 16)
    simpa [Text.hexNumber?, hzero, hhigh, hlow] using Nat.div_add_mod n 16
  obtain ⟨q, hq⟩ := exists_readHex hsizes hnumber rest p
  refine ⟨q, ?_⟩
  have hlow : ¬ 0xDC00 ≤ n := by omega
  have hplain : n < 0xD800 := by omega
  simp [readUnicode, hq, bind, Except.bind, pure, Except.pure, hlow, hplain]

theorem exists_readChars_escapeChar (fuel : Nat) (acc : List Char) (c : Char) (rest : List Char)
    (p : Place) : ∃ q, readChars (fuel + 1) acc ⟨escapeChar c ++ rest, p⟩ =
      readChars fuel (c :: acc) ⟨rest, q⟩ := by
  unfold escapeChar
  split
  case h_8 hquote hslash _ _ _ _ _ =>
    split
    · next hcontrol =>
      obtain ⟨q, hq⟩ := exists_readUnicode hcontrol rest ((p.after '\\').after 'u')
      rw [Char.ofNat_toNat] at hq
      refine ⟨q, ?_⟩
      simp [readChars, skip, hq]
    · next hcontrol => exact ⟨_, readChars_plain hquote hslash hcontrol⟩
  -- the other characters have an escape of two characters each
  all_goals exact ⟨_, rfl⟩

theorem exists_readChars (cs acc rest : List Char) (p : Place) {fuel : Nat}
    (hfuel : cs.length < fuel) : ∃ q, readChars fuel acc
      ⟨cs.flatMap escapeChar ++ '"' :: rest, p⟩ = .ok (acc.reverse ++ cs, ⟨rest, q⟩) := by
  induction cs generalizing acc p fuel with
  | nil =>
    obtain ⟨fuel, rfl⟩ := Nat.exists_eq_succ_of_ne_zero (Nat.ne_of_gt hfuel)
    exact ⟨p.after '"', by simp [readChars, skip]⟩
  | cons c cs ih =>
    obtain ⟨fuel, rfl⟩ := Nat.exists_eq_succ_of_ne_zero (by omega : fuel ≠ 0)
    obtain ⟨p', hc⟩ := exists_readChars_escapeChar fuel acc c
      (cs.flatMap escapeChar ++ '"' :: rest) p
    obtain ⟨q, hq⟩ := ih (c :: acc) p' (by simpa using hfuel)
    refine ⟨q, ?_⟩
    rw [List.flatMap_cons, List.append_assoc, hc, hq]
    simp

theorem length_le_flatMap_escapeChar (cs : List Char) :
    cs.length ≤ (cs.flatMap escapeChar).length := by
  induction cs with
  | nil => exact Nat.le_refl 0
  | cons c cs ih =>
    have hc : 1 ≤ (escapeChar c).length := by
      unfold escapeChar
      repeat' split
      all_goals exact Nat.succ_le_succ (Nat.zero_le _)
    simp only [List.flatMap_cons, List.length_append, List.length_cons]
    omega

theorem exists_readString (s : String) (rest : List Char) (p : Place) :
    ∃ q, readString ⟨s.toList.flatMap escapeChar ++ '"' :: rest, p⟩ = .ok (s, ⟨rest, q⟩) := by
  have hfuel : s.toList.length < (s.toList.flatMap escapeChar ++ '"' :: rest).length + 1 := by
    have hlength := length_le_flatMap_escapeChar s.toList
    simp only [List.length_append]
    omega
  obtain ⟨q, hq⟩ := exists_readChars s.toList [] rest p hfuel
  refine ⟨q, ?_⟩
  simp only [readString, hq, bind, Except.bind, pure, Except.pure]
  simp

end strings

section numbers

variable {rest : List Char} {p : Place}

end numbers

namespace Decoder

variable {α β σ : Type}

theorem reads_map {d : Decoder α} {text : List Char} {a : α} (f : α → β)
    (h : Reads d.read text a) : Reads (d.map f).read text (f a) := by
  intro space rest p hspace hrest
  obtain ⟨q, hq⟩ := h space rest p hspace hrest
  exact ⟨q, by simp only [map, hq, Except.map]⟩

theorem reads_string (s : String) : Reads string.read (printString s) s := by
  intro space rest p hspace hrest
  obtain ⟨p', hp'⟩ := exists_skipSpace hspace (by decide : isSpace '"' = false)
    (s.toList.flatMap escapeChar ++ '"' :: rest) p
  obtain ⟨q, hq⟩ := exists_readString s rest (p'.after '"')
  refine ⟨q, ?_⟩
  simp only [string, printString, List.append_assoc, List.cons_append, List.nil_append, hp', skip,
    hq]

namespace Record

/-- The members, printed one by one, set the fields of the record that the decoder asks for. -/
inductive Sets (r : Record σ) (print : Value → List Char) :
    List String → σ → List (String × Value) → σ → Prop
  | done {seen : List String} {s : σ} (hmissing : r.missing? seen = none) :
    Sets r print seen s [] s
  | member {seen : List String} {s t : σ} {name : String} {v : Value}
      {ms : List (String × Value)} {f : Field σ} {set : σ → σ} (hfield : r.field? name = some f)
      (hseen : seen.contains name = false) (hread : Reads f.set.read (print v) set)
      (hrest : Sets r print (name :: seen) (set s) ms t) : Sets r print seen s ((name, v) :: ms) t

variable {r : Record σ} {seen : List String} {s : σ} {fuel : Nat} {space rest : List Char}

def separator (isFirst : Bool) : List Char :=
  if isFirst then [] else [',']

theorem exists_nextMember (isFirst : Bool) (hspace : AllSpace space) (rest : List Char)
    (p : Place) : ∃ q, nextMember isFirst ⟨separator isFirst ++ (space ++ '"' :: rest), p⟩ =
      .ok (true, ⟨'"' :: rest, q⟩) := by
  cases isFirst with
  | true =>
    obtain ⟨q, hq⟩ := exists_skipSpace hspace (by decide : isSpace '"' = false) rest p
    exact ⟨q, by simp [nextMember, separator, hq]⟩
  | false =>
    obtain ⟨p', hp'⟩ := exists_skipSpace allSpace_nil
      (by decide : isSpace ',' = false) (space ++ '"' :: rest) p
    obtain ⟨q, hq⟩ := exists_skipSpace hspace (by decide : isSpace '"' = false) rest
      (p'.after ',')
    rw [List.nil_append] at hp'
    exact ⟨q, by simp [nextMember, separator, hp', skip, hq]⟩

theorem exists_readColon (rest : List Char) (p : Place) :
    ∃ q, readColon ⟨':' :: rest, p⟩ = .ok ⟨rest, q⟩ := by
  obtain ⟨p', hp'⟩ := exists_skipSpace allSpace_nil
    (by decide : isSpace ':' = false) rest p
  rw [List.nil_append] at hp'
  exact ⟨p'.after ':', by simp [readColon, hp', skip]⟩

theorem exists_readFields_member (fuel : Nat) (isFirst : Bool) {name : String} {f : Field σ}
    {gap text : List Char} {set : σ → σ} (hfield : r.field? name = some f)
    (hseen : seen.contains name = false) (hread : Reads f.set.read text set)
    (hspace : AllSpace space) (hgap : AllSpace gap) (hrest : EndsNumber rest) (p : Place) :
    ∃ q, r.readFields (fuel + 1) isFirst seen s
        ⟨separator isFirst ++ (space ++ (printString name ++ ':' :: (gap ++ (text ++ rest)))), p⟩ =
      r.readFields fuel false (name :: seen) (set s) ⟨rest, q⟩ := by
  obtain ⟨p₁, h₁⟩ := exists_nextMember isFirst hspace
    (name.toList.flatMap escapeChar ++ '"' :: ':' :: (gap ++ (text ++ rest))) p
  obtain ⟨p₂, h₂⟩ := exists_readString name (':' :: (gap ++ (text ++ rest))) (p₁.after '"')
  obtain ⟨p₃, h₃⟩ := exists_readColon (gap ++ (text ++ rest)) p₂
  obtain ⟨q, hq⟩ := hread gap rest p₃ hgap hrest
  refine ⟨q, ?_⟩
  rw [readFields]
  simp only [printString, List.append_assoc, List.cons_append, List.nil_append, h₁, skip, h₂, h₃,
    hq, hfield, hseen, bind, Except.bind]
  rfl

theorem exists_readFields_end (isFirst : Bool) (hmissing : r.missing? seen = none)
    (hspace : AllSpace space) (rest : List Char) (p : Place) :
    ∃ q, r.readFields (fuel + 1) isFirst seen s ⟨space ++ '}' :: rest, p⟩ =
      .ok (s, ⟨rest, q⟩) := by
  obtain ⟨q, hq⟩ := exists_skipSpace hspace (by decide : isSpace '}' = false) rest p
  refine ⟨q.after '}', ?_⟩
  rw [readFields]
  simp [nextMember, hq, hmissing, skip, bind, Except.bind, pure, Except.pure]

def printMembers (print : Value → List Char) (space gap : List Char) :
    List (String × Value) → List Char
  | [] => []
  | (name, v) :: ms =>
    ',' :: (space ++ (printString name ++
      ':' :: (gap ++ (print v ++ printMembers print space gap ms))))

variable {print : Value → List Char} {gap close : List Char}

theorem endsNumber_printMembers (hclose : AllSpace close) (ms : List (String × Value))
    (rest : List Char) :
    EndsNumber (printMembers print space gap ms ++ (close ++ '}' :: rest)) := by
  cases ms with
  | nil => exact endsNumber_append hclose (by decide) rest
  | cons m ms => exact endsNumber_append allSpace_nil (by decide) _

theorem length_le_printMembers (print : Value → List Char) (space gap : List Char)
    (ms : List (String × Value)) : ms.length ≤ (printMembers print space gap ms).length := by
  induction ms with
  | nil => exact Nat.zero_le _
  | cons m ms ih =>
    simp only [printMembers, List.length_append, List.length_cons]
    omega

theorem Sets.exists_readFields {ms : List (String × Value)} {t : σ}
    (h : Sets r print seen s ms t) (hspace : AllSpace space) (hgap : AllSpace gap)
    (hclose : AllSpace close) (isFirst : Bool) {fuel : Nat} (hfuel : ms.length < fuel)
    (rest : List Char) (p : Place) : ∃ q, r.readFields fuel isFirst seen s
      ⟨(printMembers print space gap ms).drop isFirst.toNat ++ (close ++ '}' :: rest), p⟩ =
      .ok (t, ⟨rest, q⟩) := by
  induction h generalizing isFirst fuel p with
  | done hmissing =>
    obtain ⟨fuel, rfl⟩ := Nat.exists_eq_succ_of_ne_zero (Nat.ne_of_gt hfuel)
    rw [printMembers, List.drop_nil]
    exact exists_readFields_end isFirst hmissing hclose rest p
  | @member seen s t name v ms f set hfield hseen hread _ ih =>
    obtain ⟨fuel, rfl⟩ := Nat.exists_eq_succ_of_ne_zero (by omega : fuel ≠ 0)
    obtain ⟨p', hp'⟩ := exists_readFields_member (s := s) fuel isFirst hfield hseen
      hread hspace hgap (endsNumber_printMembers hclose ms rest) p
    obtain ⟨q, hq⟩ := ih false (Nat.lt_of_succ_lt_succ hfuel) p'
    rw [Bool.toNat_false, List.drop_zero, ← hp'] at hq
    refine ⟨q, ?_⟩
    rw [← hq]
    cases isFirst <;> simp [printMembers, separator]

theorem Sets.reads_braces {ms : List (String × Value)} {t : σ} (h : Sets r print [] r.empty ms t)
    (hspace : AllSpace space) (hgap : AllSpace gap) (hclose : AllSpace close) :
    Reads (record r).read
      ('{' :: ((printMembers print space gap ms).drop 1 ++ (close ++ ['}']))) t := by
  intro before rest p hbefore _
  have hfuel : ms.length <
      ('{' :: ((printMembers print space gap ms).drop 1 ++ (close ++ '}' :: rest))).length + 1 := by
    have hlength := length_le_printMembers print space gap ms
    simp only [List.length_cons, List.length_append, List.length_drop]
    omega
  obtain ⟨p', hp'⟩ := exists_skipSpace hbefore (by decide : isSpace '{' = false)
    ((printMembers print space gap ms).drop 1 ++ (close ++ '}' :: rest)) p
  obtain ⟨q, hq⟩ := h.exists_readFields hspace hgap hclose true hfuel rest (p'.after '{')
  refine ⟨q, ?_⟩
  simpa only [record, List.cons_append, List.append_assoc, List.nil_append, hp', skip,
    Bool.toNat_true] using hq

end Record

theorem parse_ofList {d : Decoder α} {text : List Char} {a : α} (h : Reads d.read text a) :
    d.parse (String.ofList text) = .ok a := by
  obtain ⟨q, hq⟩ := h [] [] ⟨1, 0⟩ allSpace_nil (by simp [EndsNumber])
  rw [List.nil_append, List.append_nil] at hq
  simp [parse, readAll, ofText, hq, readEnd, skipSpace, dropWhile, bind, Except.bind, pure,
    Except.pure]

end Decoder

end BeanDoc.Json
