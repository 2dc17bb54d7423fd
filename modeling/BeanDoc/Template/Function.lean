import BeanDoc.Template.Arguments

/-! The functions that every template can call, as far as they do not change anything. -/

namespace BeanDoc.Template

def rangeItems (low step : Int) (count : Nat) : List Value :=
  (List.range count).map fun (i : Nat) => .ofInt (low + step * i)

def rangeCount (low high step : Int) : Nat :=
  if step > 0 then ((high - low + step - 1) / step).toNat
  else ((low - high - step - 1) / (-step)).toNat

def range (vs : List Value) : Except EvalFault Value := do
  let wide := Arguments.signedOf "isize" 64
  let (v, vs) ← Arguments.required vs
  let first ← wide v
  let (second, vs) ← Arguments.optionalAs wide vs
  let (step, vs) ← Arguments.optionalAs wide vs
  Arguments.finish vs
  let (low, high) := match second with | some high => (first, high) | none => (0, first)
  let step := step.getD 1
  if step = 0 then throw .zeroRangeStep
  let count := rangeCount low high step
  if count > 100000 then throw .longRange
  return .list .iterator (rangeItems low step count)

def dict (a : Arguments) : Except EvalFault Value := do
  let (base, vs) ← Arguments.optional a.positional
  Arguments.finish vs
  let named := a.named.getD []
  match base with
  | none => return .ofEntries named
  | some v =>
    match v.entries? with
    | some es => return .ofEntries (es ++ named)
    | none => throw .noMap

def namespaceEntries (vs : List Value) : Except EvalFault (List (Value × Value)) := do
  let (base, vs) ← Arguments.optional vs
  Arguments.finish vs
  match base with
  | none => return []
  | some v =>
    match v.entries? with
    | some es => return es.filter fun (k, _) => k.kind == .string
    | none => throw (.namespaceFrom v.kind)

end BeanDoc.Template
