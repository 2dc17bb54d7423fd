import BeanDoc.Proofs.TrimmedText
import BeanDoc.Template.Context

/-! The rules for accessors. No method fits two rules, so that the kind, the property and the
variables of a method all come from one and the same rule, in whatever order the rules are tried. -/

namespace BeanDoc

open Accessor Text

def Method.IsNamed (m : Method) (lead : String) : Prop :=
  ∃ first rest, isUppercase first = true ∧ m.name = lead ++ String.ofList (first :: rest)

/-- An annotation marks an override, behind any number of `@`. -/
def Method.IsMarked (m : Method) : Prop :=
  ∃ n, ∃ mark ∈ ["Override", "java.lang.Override"],
    String.ofList (List.replicate n '@') ++ mark ∈ m.annotations

structure Method.IsGetter (m : Method) : Prop where
  unmarked : ¬ m.IsMarked
  noParameter : m.parameters = []
  result : ∃ type, m.returnType = some type ∧ trimmed type ≠ "void" ∧
    (m.IsNamed "get" ∨
      m.IsNamed "is" ∧ trimmed type ∈ ["boolean", "Boolean", "java.lang.Boolean"])

structure Method.IsSetter (m : Method) : Prop where
  unmarked : ¬ m.IsMarked
  parameter : ∃ p, m.parameters = [p]
  noResult : ∀ type, m.returnType = some type → trimmed type = "void"
  named : m.IsNamed "set"

namespace Accessor

variable {m : Method} {table : List Rule}

theorem propertyAfter_isSome_iff {lead : String} :
    (propertyAfter lead m.name).isSome = true ↔ m.IsNamed lead := by
  have hname : ∀ tail, m.name = lead ++ String.ofList tail ↔
      after? lead.toList m.name.toList = some tail := by
    intro tail
    rw [after?_eq_some_iff, ← String.toList_inj, String.toList_append, String.toList_ofList]
  unfold propertyAfter Method.IsNamed
  simp only [hname]
  cases after? lead.toList m.name.toList with
  | none => simp
  | some tail =>
    cases tail with
    | nil => simp
    | cons first rest => cases hfirst : isUppercase first <;> simp [hfirst]

theorem getterProperty_isSome_iff : m.getterProperty.isSome = true ↔ m.parameters = [] ∧
    ∃ type, m.returnType = some type ∧ trimmed type ≠ "void" ∧
      (m.IsNamed "get" ∨ m.IsNamed "is" ∧ trimmed type ∈ booleanTypes) := by
  unfold Method.getterProperty
  cases m.parameters with
  | cons p ps => simp
  | nil =>
    cases m.returnType with
    | none => simp
    | some type =>
      by_cases hvoid : trimmed type = "void"
      · simp [hvoid]
      · by_cases hboolean : trimmed type ∈ booleanTypes
        · simp [hvoid, hboolean, ← propertyAfter_isSome_iff]
        · simp [hvoid, hboolean, ← propertyAfter_isSome_iff]

theorem setterProperty_isSome_iff : m.setterProperty.isSome = true ↔
    (∃ p, m.parameters = [p]) ∧ m.isVoid = true ∧ m.IsNamed "set" := by
  unfold Method.setterProperty
  split
  · next p hp => by_cases hvoid : m.isVoid = true <;> simp [hp, hvoid, propertyAfter_isSome_iff]
  · next hp => simpa using fun p h => absurd h (hp p)

theorem isVoid_iff : m.isVoid = true ↔ ∀ type, m.returnType = some type → trimmed type = "void" := by
  unfold Method.isVoid
  cases m.returnType <;> simp

theorem dropWhile_at_eq_iff {cs mark : List Char} (hmark : mark.head? ≠ some '@') :
    cs.dropWhile (· == '@') = mark ↔ ∃ n, cs = List.replicate n '@' ++ mark := by
  constructor
  · rintro rfl
    have hat : ∀ c ∈ cs.takeWhile (· == '@'), c = '@' := by
      intro c hc
      have hbeq := List.mem_takeWhile_imp hc
      exact beq_iff_eq.1 hbeq
    refine ⟨(cs.takeWhile (· == '@')).length, ?_⟩
    rw [← List.eq_replicate_of_mem hat, List.takeWhile_append_dropWhile]
  · rintro ⟨n, rfl⟩
    rw [List.dropWhile_append_of_pos (by simp)]
    cases mark with
    | nil => rfl
    | cons c cs => exact List.dropWhile_cons_of_neg (by simpa using hmark)

theorem isOverride_iff : m.isOverride = true ↔ m.IsMarked := by
  have hstripped : ∀ a : String, ∀ mark ∈ overrideMarks,
      String.ofList (a.toList.dropWhile (· == '@')) = mark ↔
        ∃ n, String.ofList (List.replicate n '@') ++ mark = a := by
    intro a mark hmark
    -- no mark starts with `@`, so that the stripping stops in front of it
    have hhead : mark.toList.head? ≠ some '@' := by
      rcases List.mem_pair.1 hmark with rfl | rfl <;> decide
    rw [← String.toList_inj, String.toList_ofList, dropWhile_at_eq_iff hhead]
    simp only [← String.toList_inj, String.toList_append, String.toList_ofList, eq_comm]
  unfold Method.isOverride Method.IsMarked
  simp only [List.any_eq_true, List.contains_iff_mem]
  constructor
  · rintro ⟨a, ha, hmem⟩
    obtain ⟨n, hn⟩ := (hstripped a _ hmem).1 rfl
    exact ⟨n, _, hmem, hn.symm ▸ ha⟩
  · rintro ⟨n, mark, hmark, ha⟩
    refine ⟨_, ha, ?_⟩
    rwa [(hstripped _ mark hmark).2 ⟨n, rfl⟩]

theorem not_getter_and_setter (m : Method) :
    ¬ (m.getterProperty.isSome = true ∧ m.setterProperty.isSome = true) := by
  rintro ⟨hget, hset⟩
  obtain ⟨p, hp⟩ := (setterProperty_isSome_iff.1 hset).1
  rw [(getterProperty_isSome_iff.1 hget).1] at hp
  cases hp

theorem countP_applies_le (m : Method) : rules.countP (fun r => r.applies m) ≤ 1 := by
  have hnot := not_getter_and_setter m
  unfold rules
  rw [List.countP_cons, List.countP_singleton]
  split_ifs with hset hget
  · exact absurd ⟨hget, hset⟩ hnot
  all_goals decide

theorem eq_of_applies {r s : Rule} (hr : r ∈ rules) (hs : s ∈ rules) (hrm : r.applies m = true)
    (hsm : s.applies m = true) : r = s := by
  have hnot := not_getter_and_setter m
  rcases List.mem_pair.1 hr with rfl | rfl <;> rcases List.mem_pair.1 hs with rfl | rfl
  · rfl
  · exact absurd ⟨hrm, hsm⟩ hnot
  · exact absurd ⟨hsm, hrm⟩ hnot
  · rfl

/-- The order of the rules does not matter for which of them is found. -/
theorem find?_applies_eq_some_iff (htable : ∀ r ∈ table, r ∈ rules) {r : Rule} :
    table.find? (fun s => s.applies m) = some r ↔ r ∈ table ∧ r.applies m = true := by
  constructor
  · intro h
    have hrm := List.find?_some h
    exact ⟨List.mem_of_find?_eq_some h, hrm⟩
  · rintro ⟨hr, hrm⟩
    obtain ⟨s, hs⟩ : ∃ s, table.find? (fun s => s.applies m) = some s :=
      Option.isSome_iff_exists.1 (List.find?_isSome.2 ⟨r, hr, hrm⟩)
    have hsm := List.find?_some hs
    rw [hs, eq_of_applies (htable s (List.mem_of_find?_eq_some hs)) (htable r hr) hsm hrm]

theorem find?_applies_perm (hperm : table.Perm rules) :
    table.find? (fun r => r.applies m) = rules.find? fun r => r.applies m := by
  apply Option.ext
  intro r
  rw [find?_applies_eq_some_iff fun s hs => hperm.mem_iff.1 hs,
    find?_applies_eq_some_iff fun s hs => hs, hperm.mem_iff]

theorem findSome?_bind (table : List Rule) (m : Method) :
    table.findSome? (fun r => r.bind m) =
      (table.find? fun r => r.applies m).bind fun r => r.bind m := by
  induction table with
  | nil => rfl
  | cons r table ih =>
    rw [List.findSome?_cons, List.find?_cons, Rule.applies]
    cases hbind : r.bind m with
    | none => simpa using ih
    | some p => simp [hbind]

theorem ruleFor_kind {r : Rule} (hr : r ∈ rules) : ruleFor r.kind = some r ∧ r.kind ≠ .other := by
  rcases List.mem_pair.1 hr with rfl | rfl
  · exact ⟨rfl, by decide⟩
  · exact ⟨rfl, by decide⟩

theorem mem_rules_of_ruleFor {k : Kind} {r : Rule} (h : ruleFor k = some r) :
    r ∈ rules ∧ r.kind = k := by
  have hkind := List.find?_some h
  exact ⟨List.mem_of_find?_eq_some h, by simpa using hkind⟩

theorem kind_of_found_eq_iff {k : Kind} (hk : k ≠ .other) :
    ((rules.find? fun r => r.applies m).map (·.kind)).getD .other = k ↔
      ∃ r, ruleFor k = some r ∧ r.applies m = true := by
  constructor
  · intro h
    cases hfound : rules.find? fun r => r.applies m with
    | none => exact absurd (by rw [← h, hfound]; rfl) hk
    | some r =>
      obtain ⟨hr, hrm⟩ := (find?_applies_eq_some_iff fun s hs => hs).1 hfound
      have hkind : r.kind = k := by rwa [hfound] at h
      exact ⟨r, hkind ▸ (ruleFor_kind hr).1, hrm⟩
  · rintro ⟨r, hrule, hrm⟩
    obtain ⟨hr, rfl⟩ := mem_rules_of_ruleFor hrule
    rw [(find?_applies_eq_some_iff fun s hs => hs).2 ⟨hr, hrm⟩]
    rfl

end Accessor

namespace Method

variable {m : Method} {k : Kind}

theorem property_eq_of_applies {r : Rule} (hr : r ∈ rules) (hrm : r.applies m = true) :
    r.bind m = m.property := by
  have hfound := (find?_applies_eq_some_iff fun s hs => hs).2 ⟨hr, hrm⟩
  rw [property, findSome?_bind, hfound]
  rfl

theorem property_ne_none_iff : m.property ≠ none ↔ ∃ r ∈ rules, r.applies m = true := by
  rw [property, ne_eq, List.findSome?_eq_none_iff]
  simp [Rule.applies, Option.isSome_iff_ne_none]

theorem kind_eq_iff (hk : k ≠ .other) :
    m.kind = k ↔ ¬ m.IsMarked ∧ ∃ r, ruleFor k = some r ∧ r.applies m = true := by
  rw [← isOverride_iff, ← kind_of_found_eq_iff hk]
  unfold kind
  by_cases hoverride : m.isOverride = true
  · simp [hoverride, hk.symm]
  · simp [hoverride]

theorem kind_ne_other_iff : m.kind ≠ .other ↔ ¬ m.IsMarked ∧ m.property ≠ none := by
  rw [property_ne_none_iff]
  constructor
  · intro hne
    obtain ⟨hmark, r, hrule, hrm⟩ := (kind_eq_iff hne).1 rfl
    exact ⟨hmark, r, (mem_rules_of_ruleFor hrule).1, hrm⟩
  · rintro ⟨hmark, r, hr, hrm⟩
    obtain ⟨hrule, hne⟩ := ruleFor_kind hr
    rwa [(kind_eq_iff hne).2 ⟨hmark, r, hrule, hrm⟩]

theorem kind_eq_getter_iff : m.kind = .getter ↔ m.IsGetter := by
  have hrule : ruleFor .getter = some ⟨.getter, getterProperty⟩ := rfl
  rw [kind_eq_iff (by decide), hrule]
  simp only [Option.some.injEq, exists_eq_left', Rule.applies, getterProperty_isSome_iff]
  constructor
  · rintro ⟨hmark, hparameters, hresult⟩
    exact ⟨hmark, hparameters, hresult⟩
  · rintro ⟨hmark, hparameters, hresult⟩
    exact ⟨hmark, hparameters, hresult⟩

theorem kind_eq_setter_iff : m.kind = .setter ↔ m.IsSetter := by
  have hrule : ruleFor .setter = some ⟨.setter, setterProperty⟩ := rfl
  rw [kind_eq_iff (by decide), hrule]
  simp only [Option.some.injEq, exists_eq_left', Rule.applies, setterProperty_isSome_iff,
    isVoid_iff]
  constructor
  · rintro ⟨hmark, hparameter, hvoid, hname⟩
    exact ⟨hmark, hparameter, hvoid, hname⟩
  · rintro ⟨hmark, hparameter, hvoid, hname⟩
    exact ⟨hmark, hparameter, hvoid, hname⟩

/-- At most one rule applies to a method, in whatever order the rules are tried. A method is an
accessor if it is not marked and has a property; the rule for its kind gives the property, and the
property gives the variables. What getters and setters are is told by their signature. -/
theorem rules_agree (m : Method) :
    rules.countP (fun r => r.applies m) ≤ 1 ∧
      (∀ table : List Rule, table.Perm rules →
        (table.find? fun r => r.applies m) = (rules.find? fun r => r.applies m) ∧
          table.findSome? (fun r => r.bind m) = m.property) ∧
      (m.kind ≠ .other ↔ ¬ m.IsMarked ∧ m.property ≠ none) ∧
      (∀ k ≠ .other, m.kind = k →
        ∃ r, ruleFor k = some r ∧ r.applies m = true ∧ r.bind m = m.property) ∧
      (∀ c projectName, let v := Template.Context.forMethod c m projectName
        v.field = m.property.map (·.name) ∧ v.fieldType = m.property.map (·.type) ∧
          (v.field = none ↔ v.fieldType = none)) ∧
      (m.kind = .getter ↔ m.IsGetter) ∧ (m.kind = .setter ↔ m.IsSetter) := by
  refine ⟨countP_applies_le m, ?_, kind_ne_other_iff, ?_, ?_, kind_eq_getter_iff,
    kind_eq_setter_iff⟩
  · intro table hperm
    have hfound := find?_applies_perm (m := m) hperm
    exact ⟨hfound, by rw [findSome?_bind, hfound, ← findSome?_bind, property]⟩
  · intro k hk hkind
    obtain ⟨-, r, hrule, hrm⟩ := (kind_eq_iff hk).1 hkind
    exact ⟨r, hrule, hrm, property_eq_of_applies (mem_rules_of_ruleFor hrule).1 hrm⟩
  · intro c projectName v
    refine ⟨rfl, rfl, ?_⟩
    show m.property.map (·.name) = none ↔ m.property.map (·.type) = none
    rw [Option.map_eq_none_iff, Option.map_eq_none_iff]

end Method

end BeanDoc
