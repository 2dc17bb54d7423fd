import BeanDoc.Text.Blank
import Mathlib.Data.List.DropRight

/-! Trimming drops blank text at the ends and nothing else, and it does not see blank text that is
added there. -/

namespace BeanDoc.Text

theorem not_mem_of_allBlank {c : Char} {cs : List Char} (hc : isBlank c = false)
    (h : allBlank cs = true) : c ∉ cs := by
  intro hmem
  rw [allBlank_iff.1 h c hmem] at hc
  cases hc

theorem trimEnd_eq_rdropWhile (cs : List Char) : trimEnd cs = cs.rdropWhile isBlank := rfl

theorem trimStart_eq_nil_iff {cs : List Char} : trimStart cs = [] ↔ allBlank cs = true := by
  rw [allBlank_iff, trimStart, List.dropWhile_eq_nil_iff]

theorem trimEnd_eq_nil_iff {cs : List Char} : trimEnd cs = [] ↔ allBlank cs = true := by
  rw [allBlank_iff, trimEnd_eq_rdropWhile, List.rdropWhile_eq_nil_iff]

theorem exists_eq_trimEnd_append (cs : List Char) :
    ∃ post, allBlank post = true ∧ cs = trimEnd cs ++ post := by
  refine ⟨cs.rtakeWhile isBlank, ?_, List.rdropWhile_append_rtakeWhile.symm⟩
  exact allBlank_iff.2 fun c hc => List.mem_rtakeWhile_imp hc

theorem trimEnd_append_blank {post : List Char} (h : allBlank post = true) (cs : List Char) :
    trimEnd (cs ++ post) = trimEnd cs := by
  have hrev : ∀ c ∈ post.reverse, isBlank c = true :=
    fun c hc => allBlank_iff.1 h c (List.mem_reverse.1 hc)
  rw [trimEnd, List.reverse_append, List.dropWhile_append_of_pos hrev, trimEnd]

theorem trimEnd_append_of_not_blank {cs : List Char} (h : allBlank cs = false) (pre : List Char) :
    trimEnd (pre ++ cs) = pre ++ trimEnd cs := by
  have hne : trimEnd cs ≠ [] := fun hnil => by simp [trimEnd_eq_nil_iff.1 hnil] at h
  have hrev : (cs.reverse.dropWhile isBlank).isEmpty = false := by
    simpa [trimEnd] using hne
  rw [trimEnd, List.reverse_append, List.dropWhile_append]
  simp [hrev, trimEnd]

theorem trimStart_trimEnd (cs : List Char) : trimStart (trimEnd cs) = trim cs := by
  obtain ⟨pre, hpre, hcs⟩ := exists_eq_append_trimStart cs
  cases hts : trimStart cs with
  | nil =>
    have hblank : allBlank cs = true := trimStart_eq_nil_iff.1 hts
    rw [trim, hts, trimEnd_eq_nil_iff.2 hblank]
    rfl
  | cons c rest =>
    have hc : isBlank c = false := not_blank_of_trimStart_eq_cons hts
    have hnot : allBlank (c :: rest) = false := by simp [allBlank, hc]
    have hpre' : trimEnd cs = pre ++ trimEnd (c :: rest) := by
      rw [hcs, hts, trimEnd_append_of_not_blank hnot]
    have hstart : trimEnd (c :: rest) <+: c :: rest := List.rdropWhile_prefix _ _
    rw [hpre', trimStart_blank_append hpre, trim, hts]
    cases hte : trimEnd (c :: rest) with
    | nil => simp [trimEnd_eq_nil_iff.1 hte] at hnot
    | cons d more =>
      obtain rfl : d = c := (List.cons_prefix_cons.1 (hte ▸ hstart)).1
      exact trimStart_cons_of_not_blank hc more

theorem trim_blank_append {pre : List Char} (h : allBlank pre = true) (cs : List Char) :
    trim (pre ++ cs) = trim cs := by
  rw [trim, trimStart_blank_append h, trim]

theorem trim_append_blank {post : List Char} (h : allBlank post = true) (cs : List Char) :
    trim (cs ++ post) = trim cs := by
  rw [← trimStart_trimEnd, trimEnd_append_blank h, trimStart_trimEnd]

theorem trim_trimStart (cs : List Char) : trim (trimStart cs) = trim cs := by
  obtain ⟨pre, hpre, hcs⟩ := exists_eq_append_trimStart cs
  conv_rhs => rw [hcs, trim_blank_append hpre]

theorem trim_trimEnd (cs : List Char) : trim (trimEnd cs) = trim cs := by
  obtain ⟨post, hpost, hcs⟩ := exists_eq_trimEnd_append cs
  conv_rhs => rw [hcs, trim_append_blank hpost]

theorem trim_trim (cs : List Char) : trim (trim cs) = trim cs := by
  have hdef : trim cs = trimEnd (trimStart cs) := rfl
  rw [hdef, trim_trimEnd, trim_trimStart, hdef]

theorem trim_eq_nil_iff {cs : List Char} : trim cs = [] ↔ allBlank cs = true := by
  rw [← trimStart_trimEnd, trimStart_eq_nil_iff]
  obtain ⟨post, hpost, hcs⟩ := exists_eq_trimEnd_append cs
  conv_rhs => rw [hcs]
  simp [allBlank, List.all_append, show post.all isBlank = true from hpost]

theorem exists_eq_append_trim_append (cs : List Char) :
    ∃ pre post, allBlank pre = true ∧ allBlank post = true ∧ cs = pre ++ trim cs ++ post := by
  obtain ⟨pre, hpre, hstart⟩ := exists_eq_append_trimStart cs
  obtain ⟨post, hpost, hend⟩ := exists_eq_trimEnd_append (trimStart cs)
  refine ⟨pre, post, hpre, hpost, ?_⟩
  rw [trim, List.append_assoc, ← hend, ← hstart]

theorem not_blank_of_trim_eq_cons {c : Char} {cs rest : List Char} (h : trim cs = c :: rest) :
    isBlank c = false := by
  rw [← trimStart_trimEnd] at h
  exact not_blank_of_trimStart_eq_cons h

theorem trim_isInfix (cs : List Char) : trim cs <:+: cs :=
  (List.rdropWhile_prefix _ _).isInfix.trans (List.dropWhile_suffix _).isInfix

theorem trim_between {c d : Char} (hc : isBlank c = false) (hd : isBlank d = false)
    (cs : List Char) : trim (c :: cs ++ [d]) = c :: cs ++ [d] := by
  rw [trim, List.cons_append, trimStart_cons_of_not_blank hc, ← List.cons_append,
    trimEnd_eq_rdropWhile, List.rdropWhile_concat_neg _ _ _ (by simp [hd])]

structure Solid (w : List Char) : Prop where
  first : ∃ c rest, w = c :: rest ∧ isBlank c = false
  last : ∃ front d, w = front ++ [d] ∧ isBlank d = false

namespace Solid

variable {w v : List Char}

theorem ne_nil (h : Solid w) : w ≠ [] := by
  obtain ⟨c, rest, rfl, -⟩ := h.first
  exact List.cons_ne_nil c rest

theorem trimStart_append (h : Solid w) (a b : List Char) :
    trimStart (a ++ (w ++ b)) = trimStart a ++ (w ++ b) := by
  obtain ⟨c, rest, rfl, hc⟩ := h.first
  rw [trimStart, List.dropWhile_append]
  cases ha : a.dropWhile isBlank with
  | nil => simp [trimStart, ha, hc]
  | cons d ds => simp [trimStart, ha]

theorem trimEnd_append (h : Solid w) (a b : List Char) :
    trimEnd (a ++ (w ++ b)) = a ++ (w ++ trimEnd b) := by
  obtain ⟨front, d, rfl, hd⟩ := h.last
  by_cases hb : allBlank b = true
  · rw [trimEnd_eq_nil_iff.2 hb, ← List.append_assoc, trimEnd_append_blank hb, List.append_nil,
      ← List.append_assoc, trimEnd_eq_rdropWhile, List.rdropWhile_concat_neg _ _ _ (by simp [hd])]
  · rw [← List.append_assoc, trimEnd_append_of_not_blank (by simpa using hb), List.append_assoc]

theorem trim_append (h : Solid w) (a b : List Char) :
    trim (a ++ (w ++ b)) = trimStart a ++ (w ++ trimEnd b) := by
  rw [trim, h.trimStart_append, h.trimEnd_append]

theorem trim_eq_self (h : Solid w) : trim w = w := by
  simpa [trimStart, trimEnd] using h.trim_append [] []

theorem append (hw : Solid w) (hv : Solid v) (mid : List Char) : Solid (w ++ mid ++ v) := by
  obtain ⟨c, rest, rfl, hc⟩ := hw.first
  obtain ⟨front, d, rfl, hd⟩ := hv.last
  exact ⟨⟨c, rest ++ mid ++ (front ++ [d]), by simp, hc⟩,
    ⟨c :: rest ++ mid ++ front, d, by simp, hd⟩⟩

theorem of_ends {t : List Char} (hstart : w <+: t) (hend : v <:+ t) (hw : Solid w) (hv : Solid v) :
    Solid t := by
  obtain ⟨c, rest, rfl, hc⟩ := hw.first
  obtain ⟨front, d, rfl, hd⟩ := hv.last
  obtain ⟨after, hafter⟩ := hstart
  obtain ⟨before, hbefore⟩ := hend
  exact ⟨⟨c, rest ++ after, hafter.symm, hc⟩, ⟨before ++ front, d, by simp [← hbefore], hd⟩⟩

theorem of_not_blank (hne : w ≠ []) (h : ∀ c ∈ w, isBlank c = false) : Solid w := by
  obtain ⟨front, d, rfl⟩ := List.eq_nil_or_concat' w |>.resolve_left hne
  obtain ⟨c, rest, hw⟩ := List.exists_cons_of_ne_nil hne
  exact ⟨⟨c, rest, hw, h c (hw ▸ List.mem_cons_self)⟩, ⟨front, d, rfl, h d (by simp)⟩⟩

theorem of_trim (hne : w ≠ []) (h : trim w = w) : Solid w := by
  constructor
  · obtain ⟨c, rest, hw⟩ := List.exists_cons_of_ne_nil hne
    exact ⟨c, rest, hw, not_blank_of_trim_eq_cons (h.trans hw)⟩
  · obtain ⟨front, d, hw⟩ := List.eq_nil_or_concat' w |>.resolve_left hne
    refine ⟨front, d, hw, ?_⟩
    by_contra hblank
    have hd : allBlank [d] = true := by simpa [allBlank] using hblank
    have hshort : trim w = trim front := by rw [hw, trim_append_blank hd]
    have hlength := (trim_isInfix front).length_le
    rw [← hshort, h, hw, List.length_append, List.length_singleton] at hlength
    omega

theorem of_not_allBlank (h : allBlank w = false) : Solid (trim w) := by
  apply of_trim _ (trim_trim w)
  rw [Ne, trim_eq_nil_iff, h]
  decide

end Solid

end BeanDoc.Text
