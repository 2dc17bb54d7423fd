import BeanDoc.Template.Filter.Basic
import BeanDoc.Template.Test

/-! The filters that choose, change or arrange the items of a value. Some of them apply a test or
another filter to each item, by its name. -/

namespace BeanDoc.Template

namespace Filter

open Arguments

def partAt (path : String) (v : Value) : Except EvalFault Value :=
  match atPath? path.toList v with
  | some w => .ok w
  | none => .error .undefinedValue

def partOr (path : String) (default v : Value) : Value :=
  match atPath? path.toList v with
  | some w => if w.isUndefined then default else w
  | none => default

/-- Without a name the test is whether a value is true. -/
def testOf (vs : List Value) : Option String → Except EvalFault (Value → Except EvalFault Bool)
  | none => .ok fun w => .ok w.isTrue
  | some name =>
    match Test.find? name with
    | some test => .ok fun w => test (w :: vs)
    | none => .error .unknownTestName

def choose (wanted : Bool) (path : Option String) (vs : List Value) (v : Value) :
    Except EvalFault Value := do
  let (name, vs) ← optionalText vs
  let test ← testOf vs name
  let items ← v.iterate
  let kept ← items.filterM fun item => do
    let w ← match path with | none => pure item | some path => partAt path item
    return (← test w) == wanted
  return .seq kept

def select (wanted : Bool) (vs : List Value) : Except EvalFault Value := do
  let (v, vs) ← required vs
  choose wanted none vs v

def selectAttribute (wanted : Bool) (vs : List Value) : Except EvalFault Value := do
  let (v, vs) ← required vs
  let (path, vs) ← text vs
  choose wanted (some path) vs v

def cutArguments (vs : List Value) : Except EvalFault (List Value × Nat × Option Value) := do
  let (v, vs) ← required vs
  let (count, vs) ← required vs
  let count ← sizeOf count
  let (filler, vs) ← optional vs
  finish vs
  if count = 0 then throw .zeroCount
  return (← v.iterate, count, filler)

def batches (count : Nat) (filler : Option Value) (items : List Value) : List (List Value) :=
  (List.range ((items.length + count - 1) / count)).map fun i =>
    let part := (items.drop (i * count)).take count
    match filler with
    | none => part
    | some v => part ++ List.replicate (count - part.length) v

def batch (vs : List Value) : Except EvalFault Value := do
  let (items, count, filler) ← cutArguments vs
  return .seq ((batches count filler items).map .seq)

/-- Items in so many parts, of which the first ones may have one more than the others. Those get the
filler in its place, also if all parts are of one length. -/
def parts (count : Nat) (filler : Option Value) (items : List Value) : List (List Value) :=
  let size := items.length / count
  let longer := items.length % count
  (List.range count).map fun i =>
    let part := (items.drop (i * size + min i longer)).take (if i < longer then size + 1 else size)
    if i < longer then part else part ++ filler.toList

def slice (vs : List Value) : Except EvalFault Value := do
  let (items, count, filler) ← cutArguments vs
  return .seq ((parts count filler items).map .seq)

section
variable {place : Nat → Nat} {count : Nat}

/-- Cuts at growing places put together are the items up to the last place. -/
theorem flatten_cuts (hstart : place 0 = 0) (hnext : ∀ i, place i ≤ place (i + 1))
    (items : List Value) (n : Nat) :
    ((List.range n).map fun i => (items.drop (place i)).take (place (i + 1) - place i)).flatten =
      items.take (place n) := by
  induction n with
  | zero => rw [hstart, List.take_zero, List.range_zero, List.map_nil, List.flatten_nil]
  | succ n ih =>
    rw [List.range_succ, List.map_append, List.flatten_append, ih, List.map_singleton,
      List.flatten_singleton, ← List.take_add, Nat.add_sub_cancel' (hnext n)]

theorem flatten_batches (hcount : 0 < count) (items : List Value) :
    (batches count none items).flatten = items := by
  have hsize : ∀ i, (i + 1) * count - i * count = count := by
    intro i
    rw [Nat.succ_mul, Nat.add_sub_cancel_left]
  have hcuts := flatten_cuts (Nat.zero_mul count)
    (fun i => Nat.mul_le_mul_right count (Nat.le_succ i)) items
    ((items.length + count - 1) / count)
  have hall : items.length ≤ (items.length + count - 1) / count * count := by
    have hdiv := Nat.div_add_mod (items.length + count - 1) count
    have hmod := Nat.mod_lt (items.length + count - 1) hcount
    rw [Nat.mul_comm] at hdiv
    omega
  simp only [hsize] at hcuts
  rw [batches, hcuts, List.take_of_length_le hall]

theorem flatten_parts (hcount : 0 < count) (items : List Value) :
    (parts count none items).flatten = items := by
  have hlonger := Nat.mod_lt items.length hcount
  have hstep : ∀ i, (i + 1) * (items.length / count) + min (i + 1) (items.length % count) =
      i * (items.length / count) + min i (items.length % count) +
        if i < items.length % count then items.length / count + 1 else items.length / count := by
    intro i
    rw [Nat.succ_mul]
    split <;> omega
  have hnext : ∀ i, i * (items.length / count) + min i (items.length % count) ≤
      (i + 1) * (items.length / count) + min (i + 1) (items.length % count) := by
    intro i
    rw [hstep]
    exact Nat.le_add_right _ _
  have hcuts := flatten_cuts (by simp) hnext items count
  have hall : items.length ≤ count * (items.length / count) + min count (items.length % count) := by
    have hdiv := Nat.div_add_mod items.length count
    omega
  rw [List.take_of_length_le hall] at hcuts
  simp only [hstep, Nat.add_sub_cancel_left] at hcuts
  simpa [parts] using hcuts

end

def sortsByValue (a : Arguments) : Except EvalFault Bool := do
  match ← a.option "by" textOnly with
  | none | some "key" => return false
  | some "value" => return true
  | some other => throw (.badSortKey other)

def dictsort (a : Arguments) : Except EvalFault Value := do
  let (v, vs) ← required a.positional
  finish vs
  match v.entries? with
  | none => throw .noPairList
  | some es =>
    let byValue ← sortsByValue a
    let caseMatters ← a.option "case_sensitive" truthOf
    let key (e : Value × Value) : Value := if byValue then e.2 else e.1
    let sorted := sortItems (fun d e =>
      sortOrder (caseMatters.getD false) (key d) (key e) == .lt) es
    let descending ← a.option "reverse" truthOf
    a.onlyOptions ["by", "case_sensitive", "reverse"]
    let es := if descending.getD false then sorted.reverse else sorted
    return .seq (es.map fun (k, v) => .seq [k, v])

/-- A group of items with one key. It is the key of the last, as keys can differ in case. -/
def ofGroup (members : List (Value × Value)) : Value :=
  .list .group [(members.getLast?.map Prod.fst).getD .undefined,
    .list .iterator (members.map Prod.snd)]

def groupby (a : Arguments) : Except EvalFault Value := do
  let (v, vs) ← required a.positional
  let (path, vs) ← optionalAs textOnly vs
  finish vs
  let default := (← a.option "default" pure).getD .undefined
  let caseMatters := (← a.option "case_sensitive" truthOf).getD false
  let namedPath ← if path.isNone then a.option "attribute" textOnly else pure none
  let path ← match path.or namedPath with
    | some path => pure path
    | none => throw (.missingOption "attribute")
  let items ← v.iterate
  let keyed := items.map fun item => (partOr path default item, item)
  let sorted := sortItems (fun d e => sortOrder caseMatters d.1 e.1 == .lt) keyed
  a.onlyOptions ("default" :: "case_sensitive" ::
    if a.positional.length < 2 then ["attribute"] else [])
  return .seq ((sorted.splitBy fun d e => sortOrder caseMatters d.1 e.1 == .eq).map ofGroup)

/-- Maps become one map, in which the last of several entries counts; all else becomes one list. -/
def chain (vs : List Value) : Except EvalFault Value :=
  if vs.all fun v => v.kind == .map then
    .ok (.ofEntries (vs.flatMap fun v => v.entries?.getD []))
  else do
    let items := (← vs.mapM Value.iterate).flatten
    return .list (if vs.all fun v => v.kind == .sequence then .sequence else .iterator) items

def zipItems (columns : List (List Value)) : List (List Value) :=
  let rows := ((columns.map List.length).min?).getD 0
  (List.range rows).map fun i => columns.filterMap (·[i]?)

def zip (vs : List Value) : Except EvalFault Value := do
  let columns ← vs.mapM fun v =>
    match v.iterate with
    | .ok items => .ok items
    | .error _ => .error (.noZip v.kind)
  return .list .iterator ((zipItems columns).map .seq)

def mapAttribute (key default : Value) (items : List Value) : Except EvalFault (List Value) :=
  items.mapM fun item =>
    let part? :=
      match key with
      | .string path _ => atPath? path.toList item
      | key => if item.isUndefined then none else some (item.item key)
    match part? with
    | some w => .ok (if w.isUndefined then default else w)
    | none => if default.isUndefined then .error .undefinedValue else .ok default

/-- Applies another filter to each item, or takes a part of it. `filters` are the other filters;
this one can be applied again, each time with an argument less. -/
def map (filters : List (String × (Arguments → Except EvalFault Value))) : (fuel : Nat) →
    Arguments → Except EvalFault Value
  | 0, _ => .error .noFilterName
  | fuel + 1, a => do
    let (v, vs) ← required a.positional
    match ← a.option "attribute" pure with
    | some key =>
      if !vs.isEmpty then throw .tooManyArguments
      let items ← v.iterate
      return .seq (← mapAttribute key ((a.named? "default").getD .undefined) items)
    | none =>
      match vs with
      | [] => throw .noFilterName
      | .string name _ :: vs =>
        match if name = "map" then some (map filters fuel) else filters.lookup name with
        | none => throw .unknownFilterName
        | some f =>
          let items ← v.iterate
          return .seq (← items.mapM fun item => f (.ofValues (item :: vs)))
      | _ :: _ => throw .badFilterName

end Filter

end BeanDoc.Template
