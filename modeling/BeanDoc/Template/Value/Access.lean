import BeanDoc.Template.Value.Order

/-! Parts of values: attributes, items and slices. A part that a value does not have is
undefined. -/

namespace BeanDoc.Template

/-- The position that an index stands for; a negative one counts from the end. -/
def position? (length : Option Nat) (i : Int) : Option Nat :=
  match i with
  | .ofNat n => some n
  | .negSucc n =>
    match length with
    | some len => if n + 1 ≤ len then some (len - (n + 1)) else none
    | none => none

/-- Every `n`-th item from the first on, where `skip` items are left out first. -/
def everyNth {α : Type} (n : Nat) : (skip : Nat) → List α → List α
  | _, [] => []
  | 0, a :: as => a :: everyNth n (n - 1) as
  | skip + 1, _ :: as => everyNth n skip as

/-- The place that a bound of a slice stands for; a negative one counts from the end, and from the
start at the most. -/
def boundPlace (length : Nat) (i : Int) : Nat :=
  if i < 0 then ((length : Int) + i).toNat else i.toNat

def sliceForward {α : Type} (start : Int) (stop : Option Int) (step : Nat) (items : List α) :
    List α :=
  let first := boundPlace items.length start
  let last := match stop with | some i => boundPlace items.length i | none => items.length
  everyNth step 0 ((items.drop first).take (last - first))

def sliceBackward {α : Type} (start stop : Option Int) (step : Nat) (items : List α) : List α :=
  let length := items.length
  let first : Nat :=
    match start with
    | none => length - 1
    | some i =>
      if i ≥ length then length - 1
      else if i ≥ 0 then i.toNat
      else ((length : Int) + i).toNat
  let last : Nat :=
    match stop with
    | none => 0
    | some i => if i < 0 then ((length : Int) + i).toNat else i.toNat
  let count := if last = 0 then (first + step) / step else (first - last + step - 1) / step
  (everyNth step 0 ((items.take (first + 1)).drop last).reverse).take count

namespace Value

def attribute? (v : Value) (name : String) : Option Value :=
  match v with
  | map _ entries => lookupEntry (string name) entries
  | list .group items =>
    if name = "grouper" then items[0]? else if name = "list" then items[1]? else Option.none
  | v => v.attributes.lookup name

def member (v : Value) (name : String) : Value :=
  (v.attribute? name).getD undefined

def index? (v : Value) : Option Int :=
  match v.integer? with
  | some i => if Decimal.fitsSigned 64 i then some i else Option.none
  | Option.none => Option.none

def item (v key : Value) : Value :=
  match v with
  | map _ entries => (lookupEntry key entries).getD undefined
  | list shape items =>
    match shape, key with
    | .group, string name _ => v.member name
    | _, _ => ((key.index?.bind (position? v.length?)).bind (items[·]?)).getD undefined
  | repeated items n =>
    ((key.index?.bind (position? v.length?)).bind fun i =>
      if i < items.length * n then items[i % items.length]? else Option.none).getD undefined
  | string s _ =>
    ((key.index?.bind (position? v.length?)).bind ((characters s)[·]?)).getD undefined
  | loop .. | procedure .. =>
    match key with
    | string name _ => v.member name
    | _ => undefined
  | _ => undefined

def bound (v : Value) : Except EvalFault (Option Int) :=
  match v with
  | none => .ok Option.none
  | v =>
    match v.index? with
    | some i => .ok (some i)
    | Option.none => .error (.noConversion v.kind "i64")

def slicePart {α : Type} (start stop : Option Int) (step : Int) (items : List α) : List α :=
  if step > 0 then sliceForward (start.getD 0) stop step.toNat items
  else sliceBackward start stop step.natAbs items

/-- How often a slice goes through items that come again so often. One that does not count from the
end goes no further than it has to. -/
def roundsOf (length times : Nat) (start stop : Option Int) (step : Int) : Nat :=
  match stop with
  | some (.ofNat last) =>
    if step > 0 && start.all (· ≥ 0) then min times (last / length + 1) else times
  | _ => times

def slice (v start stop step : Value) : Except EvalFault Value := do
  let start ← start.bound
  let stop ← stop.bound
  let step := (← step.bound).getD 1
  if step = 0 then throw .zeroStep
  match v with
  | undefined | none => return seq []
  | string s _ => return string (String.ofList (slicePart start stop step s.toList))
  | list _ items => return list .iterator (slicePart start stop step items)
  | repeated items n =>
    return list .iterator (slicePart start stop step
      (rounds items (roundsOf items.length n start stop step)))
  | v => throw (.notSliceable v.kind)

end Value

end BeanDoc.Template
