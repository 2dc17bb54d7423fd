import BeanDoc.Template.Arguments
import BeanDoc.Template.Names
import BeanDoc.Template.Value.Arithmetic
import BeanDoc.Text.Letter
import BeanDoc.Text.Split

/-! The tests, which stand behind `is`. -/

namespace BeanDoc.Template

namespace Test

open Arguments

def ofValue (p : Value → Bool) (vs : List Value) : Except EvalFault Bool := do
  let (v, vs) ← required vs
  finish vs
  return p v

def ofText (p : Char → Bool) (vs : List Value) : Except EvalFault Bool := do
  let (v, vs) ← required vs
  let s ← textOnly v
  finish vs
  return s.toList.all p

def against (p : Value → Value → Except EvalFault Bool) (vs : List Value) :
    Except EvalFault Bool := do
  let (v, vs) ← required vs
  let (w, vs) ← required vs
  finish vs
  p v w

def againstText (p : List Char → List Char → Bool) (vs : List Value) : Except EvalFault Bool := do
  let (s, vs) ← text vs
  let (t, vs) ← text vs
  finish vs
  return p s.toList t.toList

def isOdd (v : Value) : Bool :=
  v.integer?.any (· % 2 != 0)

def isEven (v : Value) : Bool :=
  v.integer?.any (· % 2 == 0)

def isDivisible (v w : Value) : Bool :=
  match Value.pair? true v w with
  | some (.ints i j) => i.tmod j == 0
  | some (.floats x y) => (Double.combine floatRemainder x y).isZero
  | none => false

def isWithin (v container : Value) : Bool :=
  match Value.contains container v with
  | .ok b => b
  | .error _ => false

def isIterable (v : Value) : Bool :=
  match v.iterate with
  | .ok _ => true
  | .error _ => false

def compares (p : Ordering → Bool) : List Value → Except EvalFault Bool :=
  against fun v w => .ok (p (Value.order v w))

/-- Whether two values are one and the same: objects with a number by that number, and all else by
type and content. -/
def isSame (v w : Value) : Bool :=
  match v, w with
  | .procedure i .., .procedure j .. => i == j
  | .loop i .., .loop j .. => i == j
  | .map (.shared i) _, .map (.shared j) _ => i == j
  | .int .., .float _ | .float _, .int .. => false
  | v, w => v.kind == w.kind && Value.equal v w

def isNamed (names : List String) (vs : List Value) : Except EvalFault Bool := do
  let (v, vs) ← required vs
  let s ← textOnly v
  finish vs
  return names.contains s

/-- The tests by name. The value comes as the first argument. -/
def table : List (String × (List Value → Except EvalFault Bool)) :=
  let equal := against fun v w => .ok (Value.equal v w)
  let unequal := against fun v w => .ok !(Value.equal v w)
  [("undefined", ofValue Value.isUndefined),
    ("defined", ofValue fun v => !v.isUndefined),
    ("none", ofValue fun v => v.kind == .none),
    ("safe", ofValue Value.isSafe),
    ("escaped", ofValue Value.isSafe),
    ("boolean", ofValue fun v => v.kind == .bool),
    ("odd", ofValue isOdd),
    ("even", ofValue isEven),
    ("divisibleby", against fun v w => .ok (isDivisible v w)),
    ("number", ofValue fun v => v.kind == .number),
    ("integer", ofValue fun v => match v with | .int .. => true | _ => false),
    ("float", ofValue fun v => match v with | .float _ => true | _ => false),
    ("string", ofValue fun v => v.kind == .string),
    ("sequence", ofValue fun v => v.kind == .sequence),
    ("iterable", ofValue isIterable),
    ("mapping", ofValue fun v => v.kind == .map),
    ("startingwith", againstText fun s t => (Text.after? t s).isSome),
    ("endingwith", againstText fun s t => (Text.before? t s).isSome),
    ("lower", ofText Text.isLowercase),
    ("upper", ofText Text.isUppercase),
    ("sameas", against fun v w => .ok (isSame v w)),
    ("eq", equal), ("equalto", equal), ("==", equal),
    ("ne", unequal), ("!=", unequal),
    ("lt", compares (· == .lt)), ("lessthan", compares (· == .lt)), ("<", compares (· == .lt)),
    ("le", compares (· != .gt)), ("<=", compares (· != .gt)),
    ("gt", compares (· == .gt)), ("greaterthan", compares (· == .gt)), (">", compares (· == .gt)),
    ("ge", compares (· != .lt)), (">=", compares (· != .lt)),
    ("in", against fun v w => .ok (isWithin v w)),
    ("true", ofValue fun v => match v with | .bool b => b | _ => false),
    ("false", ofValue fun v => match v with | .bool b => !b | _ => false),
    ("filter", isNamed filterNames),
    ("test", isNamed testNames)]

theorem map_fst_table : table.map Prod.fst = testNames :=
  rfl

def find? (name : String) : Option (List Value → Except EvalFault Bool) :=
  table.lookup name

/-- The test of a name for being a test tells whether there is one. -/
theorem isSome_find?_iff {name : String} : (find? name).isSome ↔ name ∈ testNames := by
  unfold find?
  rw [isSome_lookup_iff, map_fst_table]

def apply (name : String) (v : Value) (vs : List Value) : Except EvalFault Bool :=
  match find? name with
  | none => .error (.unknownTest name)
  | some p => p (v :: vs)

end Test

end BeanDoc.Template
