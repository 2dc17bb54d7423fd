/-! The values of configuration files, and how headers and keys build up tables. A table can be
written once; one that is only implied by the headers of others can still be written, and one that
dotted keys make can be extended by dotted keys. -/

namespace BeanDoc.Toml

inductive TableKind where
  | written
  | implied
  | dotted
  | inline
  deriving DecidableEq, Repr

inductive Value where
  | bool (b : Bool)
  | int (i : Int)
  | float (x : Float)
  | string (s : String)
  | date
  | array (items : List Value)
  /-- Tables that each have a header of their own. -/
  | tables (items : List Value)
  | table (kind : TableKind) (members : List (String × Value))
  deriving Inhabited

abbrev Members := List (String × Value)

namespace Members

def set (x : String) (v : Value) (ms : Members) : Members :=
  if (ms.lookup x).isSome then ms.map fun (y, w) => if y = x then (y, v) else (y, w)
  else ms ++ [(x, v)]

def modifyAt (f : Members → Option Members) : List String → Members → Option Members
  | [], ms => f ms
  | x :: xs, ms =>
    match ms.lookup x with
    | some (.table .inline _) => none
    | some (.table kind inner) => do return set x (.table kind (← modifyAt f xs inner)) ms
    -- of several tables with one header the last counts
    | some (.tables items) =>
      match items.getLast? with
      | some (.table kind inner) => do
        let last := Value.table kind (← modifyAt f xs inner)
        return set x (.tables (items.dropLast ++ [last])) ms
      | _ => none
    | _ => none

/-- Adds a value under a dotted key. The table that gets it has to be one that dotted keys make.
Those on the way to that table may also be implied, or the last of several with a header. -/
def insert (v : Value) : List String → Members → Option Members
  | [], _ => none
  | [x], ms => if (ms.lookup x).isSome then none else some (ms ++ [(x, v)])
  | x :: xs, ms =>
    let onTheWay := xs.length > 1
    match ms.lookup x with
    | none => do return set x (.table .dotted (← insert v xs [])) ms
    | some (.table kind inner) =>
      if kind = .dotted || (kind = .implied && onTheWay) then do
        return set x (.table kind (← insert v xs inner)) ms
      else none
    | some (.tables items) =>
      match items.getLast? with
      | some (.table kind inner) =>
        if onTheWay then do
          let last := Value.table kind (← insert v xs inner)
          return set x (.tables (items.dropLast ++ [last])) ms
        else none
      | _ => none
    | _ => none

def openWith (f : Option Value → Option Value) : List String → Members → Option Members
  | [], _ => none
  | [x], ms => do return set x (← f (ms.lookup x)) ms
  | x :: xs, ms =>
    match ms.lookup x with
    | none => do return set x (.table .implied (← openWith f xs [])) ms
    | some (.table .inline _) => none
    | some (.table kind inner) => do return set x (.table kind (← openWith f xs inner)) ms
    | some (.tables items) =>
      match items.getLast? with
      | some (.table kind inner) => do
        let last := Value.table kind (← openWith f xs inner)
        return set x (.tables (items.dropLast ++ [last])) ms
      | _ => none
    | _ => none

def openTable (path : List String) (ms : Members) : Option Members :=
  openWith (fun found =>
    match found with
    | none => some (.table .written [])
    | some (.table .implied inner) => some (.table .written inner)
    | _ => none) path ms

def openNextTable (path : List String) (ms : Members) : Option Members :=
  openWith (fun found =>
    match found with
    | none => some (.tables [.table .written []])
    | some (.tables items) => some (.tables (items ++ [.table .written []]))
    | _ => none) path ms

end Members

end BeanDoc.Toml
