import BeanDoc.Template.Value.Order

/-! Arguments of filters, tests and functions, read one after the other. -/

namespace BeanDoc.Template

structure Arguments where
  positional : List Value
  named : Option (List (Value × Value))

abbrev ArgReader (α : Type) := List Value → Except EvalFault (α × List Value)

namespace Arguments

/-- The arguments given by values in a row. A map of named arguments at the end holds these. -/
def ofValues (vs : List Value) : Arguments :=
  match vs.getLast? with
  | some (.map .arguments es) => ⟨vs.dropLast, some es⟩
  | _ => ⟨vs, none⟩

/-- All arguments in a row. Those with names count as one map behind the others. -/
def values (a : Arguments) : List Value :=
  a.positional ++ (a.named.map fun es => Value.map .arguments es).toList

def named? (a : Arguments) (x : String) : Option Value :=
  a.named.bind (Value.lookupEntry (.string x))

def required : ArgReader Value
  | [] => .error .missingArgument
  | v :: vs => .ok (v, vs)

/-- The next argument, if it is there and neither undefined nor none. -/
def optional : ArgReader (Option Value)
  | [] => .ok (none, [])
  | v :: vs => .ok (if v.isAbsent then none else some v, vs)

def finish : List Value → Except EvalFault Unit
  | [] => .ok ()
  | _ :: _ => .error .tooManyArguments

/-- Anything is a text if it is printed, except named arguments. -/
def printed (v : Value) : Except EvalFault String :=
  match v with
  | .map .arguments _ => .error .namedAsText
  | v => .ok v.print

def text : ArgReader String := fun vs => do
  let (v, vs) ← required vs
  return (← printed v, vs)

def textOnly (v : Value) : Except EvalFault String :=
  match v with
  | .string s _ => .ok s
  | _ => .error .noText

def integerOf (type : String) (low high : Int) (v : Value) : Except EvalFault Int :=
  match v.integer? with
  | some i => if low ≤ i && i ≤ high then .ok i else .error (.noConversion v.kind type)
  | none => .error (.noConversion v.kind type)

def signedOf (type : String) (bits : Nat) (v : Value) : Except EvalFault Int :=
  integerOf type (Decimal.leastSigned bits) (Decimal.greatestSigned bits) v

def sizeOf (v : Value) : Except EvalFault Nat :=
  (integerOf "usize" 0 ((Decimal.wordCount 64 : Int) - 1) v).map Int.toNat

def truthOf (v : Value) : Except EvalFault Bool :=
  match v with
  | .bool b => .ok b
  | v => .error (.noConversion v.kind "bool")

def optionalAs {α : Type} (f : Value → Except EvalFault α) : ArgReader (Option α) := fun vs => do
  let (v, vs) ← optional vs
  match v with
  | none => return (none, vs)
  | some v => return (some (← f v), vs)

def optionalText : ArgReader (Option String) :=
  optionalAs printed

def option {α : Type} (a : Arguments) (x : String) (f : Value → Except EvalFault α) :
    Except EvalFault (Option α) :=
  match a.named? x with
  | none => .ok none
  | some v => if v.isAbsent then .ok none else (f v).map some

def onlyOptions (a : Arguments) (known : List String) : Except EvalFault Unit :=
  (a.named.getD []).forM fun (k, _) =>
    match k with
    | .string x _ => if known.contains x then .ok () else .error (.unknownOption x)
    | _ => .error .nonTextOption

end Arguments

end BeanDoc.Template
