import BeanDoc.Proofs.AccessorRules

/-! Names of properties. Behind `get`, `is` or `set`, a name that starts with an ASCII capital keeps
the capital or has it in lower case, and the property name tells which of the two it was. So two
accessors share a property name only if the same text follows in their own names. -/

namespace BeanDoc

open Accessor Text

namespace Text

variable {c d : Char}

theorem isUpper_iff : c.isUpper = true ↔ 65 ≤ c.toNat ∧ c.toNat ≤ 90 :=
  decide_eq_true_iff

theorem toNat_toLower (h : c.isUpper = true) : c.toLower.toNat = c.toNat + 32 := by
  have hrange := isUpper_iff.1 h
  have hsmall : c.toNat + 32 < 4294967296 := by omega
  have hmoved : c.toLower.val = c.val + 32 := congrArg Char.val (dif_pos hrange)
  calc c.toLower.toNat = (c.val + 32).toNat := congrArg UInt32.toNat hmoved
    _ = c.toNat + 32 := Nat.mod_eq_of_lt hsmall

theorem toLower_inj (hc : c.isUpper = true) (hd : d.isUpper = true) :
    c.toLower = d.toLower ↔ c = d := by
  constructor
  · intro h
    have hnat := congrArg Char.toNat h
    rw [toNat_toLower hc, toNat_toLower hd] at hnat
    apply Char.toNat_inj.1
    omega
  · intro h
    rw [h]

theorem toNat_lt_of_isUpper (h : c.isUpper = true) : c.toNat < 128 := by
  have hrange := isUpper_iff.1 h
  omega

theorem isUppercase_of_isUpper (h : c.isUpper = true) : isUppercase c = true := by
  rw [isUppercase, if_pos (toNat_lt_of_isUpper h), h]

theorem lowerChar_of_isUpper (h : c.isUpper = true) : lowerChar c = [c.toLower] := by
  rw [lowerChar, if_pos (toNat_lt_of_isUpper h)]

end Text

namespace Accessor

variable {c d : Char} {cs ds : List Char}

theorem decapitalize_of_isUpper (h : c.isUpper = true) :
    decapitalize c cs = (if cs.head?.any isUppercase then c else c.toLower) :: cs := by
  unfold decapitalize
  split
  · rw [lowerChar_of_isUpper h]
    rfl
  · rw [lowerChar_of_isUpper h, List.head?_cons, Option.any_some]
    split <;> rfl

theorem decapitalize_inj (hc : c.isUpper = true) (hd : d.isUpper = true) :
    decapitalize c cs = decapitalize d ds ↔ c = d ∧ cs = ds := by
  rw [decapitalize_of_isUpper hc, decapitalize_of_isUpper hd, List.cons.injEq]
  constructor
  · rintro ⟨hfirst, rfl⟩
    refine ⟨?_, rfl⟩
    -- the second character is the same, so both capitals are kept or both are in lower case
    split at hfirst
    · exact hfirst
    · exact (toLower_inj hc hd).1 hfirst
  · rintro ⟨rfl, rfl⟩
    exact ⟨rfl, rfl⟩

theorem propertyAfter_append (lead : String) (h : c.isUpper = true) :
    propertyAfter lead (lead ++ String.ofList (c :: cs)) =
      some (String.ofList (decapitalize c cs)) := by
  rw [propertyAfter, String.toList_append, String.toList_ofList, after?_append]
  exact if_pos (isUppercase_of_isUpper h)

end Accessor

def Text.StartsCapital (s : String) : Prop :=
  ∃ first rest, s = String.ofList (first :: rest) ∧ first.isUpper = true

namespace Method

inductive HasSignature (m : Method) : String → Prop
  | get {type : String} (noParameter : m.parameters = []) (result : m.returnType = some type)
      (notVoid : trimmed type ≠ "void") : m.HasSignature "get"
  | is {type : String} (noParameter : m.parameters = []) (result : m.returnType = some type)
      (boolean : trimmed type ∈ ["boolean", "Boolean", "java.lang.Boolean"]) : m.HasSignature "is"
  | set {p : Parameter} (parameter : m.parameters = [p])
      (noResult : ∀ type, m.returnType = some type → trimmed type = "void") : m.HasSignature "set"

variable {m n : Method} {lead : String} {first : Char} {rest : List Char} {p : Property}

theorem property_of_bind {r : Rule} (hr : r ∈ rules) (h : r.bind m = some p) :
    m.property = some p := by
  have happlies : r.applies m = true := by
    rw [Rule.applies, h]
    rfl
  rw [← property_eq_of_applies hr happlies, h]

theorem getterProperty_of_result {type name : String} (hparameters : m.parameters = [])
    (hresult : m.returnType = some type) (hvoid : trimmed type ≠ "void")
    (hname : propertyAfter "get" m.name = some name ∨ propertyAfter "get" m.name = none ∧
      trimmed type ∈ booleanTypes ∧ propertyAfter "is" m.name = some name) :
    m.getterProperty = some ⟨name, trimmed type⟩ := by
  simpa [getterProperty, hparameters, hresult, hvoid] using hname

theorem exists_property_of_hasSignature (hm : m.HasSignature lead) (hfirst : first.isUpper = true)
    (hname : m.name = lead ++ String.ofList (first :: rest)) :
    ∃ p, m.property = some p ∧ p.name = String.ofList (decapitalize first rest) := by
  have hafter : propertyAfter lead m.name = some (String.ofList (decapitalize first rest)) := by
    rw [hname, propertyAfter_append lead hfirst]
  have hgetter : (⟨.getter, getterProperty⟩ : Rule) ∈ rules := List.mem_cons_self
  have hsetter : (⟨.setter, setterProperty⟩ : Rule) ∈ rules :=
    List.mem_cons_of_mem _ List.mem_cons_self
  cases hm with
  | @get type hparameters hresult hvoid =>
    have hget := getterProperty_of_result hparameters hresult hvoid (.inl hafter)
    exact ⟨_, property_of_bind hgetter hget, rfl⟩
  | @is type hparameters hresult hboolean =>
    have hvoid : trimmed type ≠ "void" := by
      intro h
      rw [h] at hboolean
      exact absurd hboolean (by decide)
    -- a name with `is` is looked up behind `get` first
    have hnotGet : propertyAfter "get" m.name = none := by
      simp [hname, propertyAfter, after?]
    have hget :=
      getterProperty_of_result hparameters hresult hvoid (.inr ⟨hnotGet, hboolean, hafter⟩)
    exact ⟨_, property_of_bind hgetter hget, rfl⟩
  | @set p hparameters hvoid =>
    have hset : m.setterProperty =
        some ⟨String.ofList (decapitalize first rest), trimmed p.type⟩ := by
      simp [setterProperty, hparameters, isVoid_iff.2 hvoid, hafter]
    exact ⟨_, property_of_bind hsetter hset, rfl⟩

/-- Two accessors are bound to the same property name if and only if the same text follows the
`get`, `is` or `set` in their names. -/
theorem property_name_eq_iff {lead' S T : String} (hm : m.HasSignature lead)
    (hn : n.HasSignature lead') (hS : StartsCapital S) (hT : StartsCapital T)
    (hmName : m.name = lead ++ S) (hnName : n.name = lead' ++ T) :
    ∃ p q, m.property = some p ∧ n.property = some q ∧ (p.name = q.name ↔ S = T) := by
  obtain ⟨c, cs, rfl, hc⟩ := hS
  obtain ⟨d, ds, rfl, hd⟩ := hT
  obtain ⟨p, hp, hpName⟩ := exists_property_of_hasSignature hm hc hmName
  obtain ⟨q, hq, hqName⟩ := exists_property_of_hasSignature hn hd hnName
  refine ⟨p, q, hp, hq, ?_⟩
  rw [hpName, hqName, String.ofList_inj, String.ofList_inj, decapitalize_inj hc hd, List.cons.injEq]

/-- One capital is put in lower case, and the first of two is kept: `isX` reads `x`, and `setXÉ`
writes `XÉ`. -/
theorem property_names_apart :
    ∃ p q, Method.property { name := "isX", returnType := some "boolean " } = some p ∧
      Method.property { name := "setXÉ", parameters := [⟨"value", "int"⟩] } = some q ∧
      (p.name = q.name ↔ "X" = "XÉ") :=
  property_name_eq_iff (.is rfl rfl (by decide)) (.set rfl (by simp)) ⟨'X', [], rfl, rfl⟩
    ⟨'X', ['É'], rfl, rfl⟩ rfl rfl

-- The capital has to be an ASCII letter: the lower case of `İ` is `i` and a dot above it.
example : propertyAfter "get" "get\u0130" = propertyAfter "get" "getI\u0307" := by decide

end Method

end BeanDoc
