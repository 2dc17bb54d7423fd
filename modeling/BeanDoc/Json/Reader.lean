import BeanDoc.Json.Skip

/-! Reading JSON: lists and objects of anything, and values of any form. -/

namespace BeanDoc.Json

/-- Whether another item follows in a list, and the input at that item or at the closing
bracket. -/
def nextItem (isFirst : Bool) (inp : Input) : Except Fault (Bool × Input) :=
  let inp := inp.skipSpace
  match inp.rest with
  | [] => .error (inp.faultNext .endInList)
  | ']' :: _ => .ok (false, inp)
  | c :: _ =>
    if isFirst then .ok (true, inp)
    else if c = ',' then
      let inp := inp.skip.skipSpace
      match inp.rest with
      | [] => .error (inp.faultNext .endInValue)
      | ']' :: _ => .error (inp.faultNext .trailingComma)
      | _ => .ok (true, inp)
    else .error (inp.faultNext .expectedListEnd)

def nextMember (isFirst : Bool) (inp : Input) : Except Fault (Bool × Input) :=
  let inp := inp.skipSpace
  match inp.rest with
  | [] => .error (inp.faultNext .endInObject)
  | '}' :: _ => .ok (false, inp)
  | c :: _ =>
    if isFirst then
      if c = '"' then .ok (true, inp) else .error (inp.faultNext .keyMustBeString)
    else if c = ',' then
      let inp := inp.skip.skipSpace
      match inp.rest with
      | [] => .error (inp.faultNext .endInValue)
      | '}' :: _ => .error (inp.faultNext .trailingComma)
      | '"' :: _ => .ok (true, inp)
      | _ => .error (inp.faultNext .keyMustBeString)
    else .error (inp.faultNext .expectedObjectEnd)

def readColon (inp : Input) : Except Fault Input :=
  let inp := inp.skipSpace
  match inp.rest with
  | [] => .error (inp.faultNext .endInObject)
  | ':' :: _ => .ok inp.skip
  | _ => .error (inp.faultNext .expectedColon)

def readItems {α : Type} (item : Reader α) : (fuel : Nat) → (isFirst : Bool) → Reader (List α)
  | 0, _, inp => .error (inp.faultHere .endInList)
  | fuel + 1, isFirst, inp => do
    let (more, inp) ← nextItem isFirst inp
    if !more then return ([], inp.skip)
    let (v, inp) ← item inp
    let (vs, inp) ← readItems item fuel false inp
    return (v :: vs, inp)

def readMembers {α : Type} (item : Reader α) :
    (fuel : Nat) → (isFirst : Bool) → Reader (List (String × α))
  | 0, _, inp => .error (inp.faultHere .endInObject)
  | fuel + 1, isFirst, inp => do
    let (more, inp) ← nextMember isFirst inp
    if !more then return ([], inp.skip)
    let (name, inp) ← readString inp.skip
    let inp ← readColon inp
    let (v, inp) ← item inp
    let (vs, inp) ← readMembers item fuel false inp
    return ((name, v) :: vs, inp)

/-- Reads a value whose lists and objects are nested less than `depth` deep. The members of each
object go through `arrange`. -/
def readValue (arrange : List (String × Value) → List (String × Value)) :
    (depth : Nat) → Reader Value
  | 0, inp => .error (inp.skipSpace.faultNext .tooDeep)
  | depth + 1, inp =>
    let inp := inp.skipSpace
    match inp.rest with
    | [] => .error (inp.faultNext .endInValue)
    | 'n' :: _ => (readWord ['u', 'l', 'l'] inp.skip).map (.null, ·)
    | 't' :: _ => (readWord ['r', 'u', 'e'] inp.skip).map (.bool true, ·)
    | 'f' :: _ => (readWord ['a', 'l', 's', 'e'] inp.skip).map (.bool false, ·)
    | '"' :: _ => (readString inp.skip).map fun (s, inp) => (.string s, inp)
    | '[' :: _ =>
      if depth = 0 then .error (inp.faultNext .tooDeep)
      else (readItems (readValue arrange depth) (inp.rest.length + 1) true inp.skip).map
        fun (vs, inp) => (.array vs, inp)
    | '{' :: _ =>
      if depth = 0 then .error (inp.faultNext .tooDeep)
      else (readMembers (readValue arrange depth) (inp.rest.length + 1) true inp.skip).map
        fun (ms, inp) => (.object (arrange ms), inp)
    | c :: _ =>
      if c = '-' || c.isDigit then readNumberValue inp
      else .error (inp.faultNext .expectedValue)

def depthLimit : Nat := 128

def readEnd (inp : Input) : Except Fault Unit :=
  let inp := inp.skipSpace
  match inp.rest with
  | [] => .ok ()
  | _ => .error (inp.faultNext .trailingCharacters)

def readAll {α : Type} (read : Reader α) (text : String) : Except Fault α := do
  let (v, inp) ← read (.ofText text)
  readEnd inp
  return v

/-- Reads a value from a text. The members of objects are sorted by name. -/
def Value.parse (text : String) : Except Fault Value :=
  readAll (readValue sortMembers depthLimit) text

end BeanDoc.Json
