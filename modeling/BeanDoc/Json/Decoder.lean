import BeanDoc.Json.Reader

/-! Decoders: how something is read from a JSON value, and how it is read directly from a text. Read
from a text, the first fault in the order of the text counts, and it has a place. -/

namespace BeanDoc.Json

def Value.found : Value → Found
  | null => .null
  | bool b => .bool b
  | int i => .int i
  | float x => .float x
  | string s => .string s
  | array _ => .sequence
  | object _ => .map

structure Decoder (α : Type) where
  ofValue : Value → Except Cause α
  read : Reader α

namespace Decoder

variable {α β : Type}

def mismatch (expected : String) (inp : Input) : Fault :=
  match inp.rest with
  | [] => inp.faultNext .endInValue
  -- a list or an object is at fault where it starts, anything else where it ends
  | '[' :: _ => ⟨.wrongType .sequence expected, some inp.place⟩
  | '{' :: _ => ⟨.wrongType .map expected, some inp.place⟩
  | _ =>
    match readValue id 1 inp with
    | .error f => f
    | .ok (v, after) => ⟨.wrongType v.found expected, some after.place⟩

def map (f : α → β) (d : Decoder α) : Decoder β where
  ofValue v := (d.ofValue v).map f
  read inp := (d.read inp).map fun (a, inp) => (f a, inp)

def string : Decoder String where
  ofValue
    | .string s => .ok s
    | v => .error (.wrongType v.found "a string")
  read inp :=
    let inp := inp.skipSpace
    match inp.rest with
    | '"' :: _ => readString inp.skip
    | _ => .error (mismatch "a string" inp)

def bool : Decoder Bool where
  ofValue
    | .bool b => .ok b
    | v => .error (.wrongType v.found "a boolean")
  read inp :=
    let inp := inp.skipSpace
    match inp.rest with
    | 't' :: _ => (readWord ['r', 'u', 'e'] inp.skip).map (true, ·)
    | 'f' :: _ => (readWord ['a', 'l', 's', 'e'] inp.skip).map (false, ·)
    | _ => .error (mismatch "a boolean" inp)

def natOf : Value → Except Cause Nat
  | .int (.ofNat n) => .ok n
  | .int i => .error (.wrongValue (.int i) "usize")
  | v => .error (.wrongType v.found "usize")

def nat : Decoder Nat where
  ofValue := natOf
  read inp :=
    let inp := inp.skipSpace
    match inp.rest with
    | [] => .error (mismatch "usize" inp)
    | c :: _ =>
      if c = '-' || c.isDigit then do
        let (v, inp) ← readNumberValue inp
        match natOf v with
        | .ok n => return (n, inp)
        | .error cause => throw ⟨cause, some inp.place⟩
      else .error (mismatch "usize" inp)

def option (d : Decoder α) : Decoder (Option α) where
  ofValue
    | .null => .ok none
    | v => (d.ofValue v).map some
  read inp :=
    let inp := inp.skipSpace
    match inp.rest with
    | 'n' :: _ => (readWord ['u', 'l', 'l'] inp.skip).map (none, ·)
    | _ => (d.read inp).map fun (a, inp) => (some a, inp)

def list (d : Decoder α) : Decoder (List α) where
  ofValue
    | .array vs => vs.mapM d.ofValue
    | v => .error (.wrongType v.found "a sequence")
  read inp :=
    let inp := inp.skipSpace
    match inp.rest with
    | '[' :: _ => readItems d.read (inp.rest.length + 1) true inp.skip
    | _ => .error (mismatch "a sequence" inp)

def choiceOf (choices : List (String × α)) (name : String) : Except Cause α :=
  match choices.lookup name with
  | some a => .ok a
  | none => .error (.unknownVariant name (choices.map (·.1)))

/-- One of several named things. As a value it may also be an object whose one member has that
name and is null. -/
def choice (choices : List (String × α)) : Decoder α where
  ofValue
    | .string s => choiceOf choices s
    | .object [(name, v)] =>
      match choiceOf choices name, v with
      | .error cause, _ => .error cause
      | .ok a, .null => .ok a
      | .ok _, v => .error (.wrongType v.found "unit")
    | .object _ => .error (.wrongValue .map "map with a single key")
    | v => .error (.wrongType v.found "string or map")
  read inp :=
    let inp := inp.skipSpace
    match inp.rest with
    | [] => .error (inp.faultNext .endInValue)
    | '"' :: _ => do
      let (name, inp) ← readString inp.skip
      match choiceOf choices name with
      | .ok a => return (a, inp)
      | .error cause => throw ⟨cause, some inp.place⟩
    | _ => .error (inp.faultNext .expectedValue)

structure Field (σ : Type) where
  name : String
  required : Bool
  set : Decoder (σ → σ)

/-- The form of a record: an object with the given fields, or the list of their values. -/
structure Record (σ : Type) where
  title : String
  fields : List (Field σ)
  empty : σ

namespace Record

variable {σ : Type}

def field? (r : Record σ) (name : String) : Option (Field σ) :=
  r.fields.find? (·.name == name)

def expectedLength (r : Record σ) : String :=
  r.title ++ " with " ++ toString r.fields.length ++
    (if r.fields.length = 1 then " element" else " elements")

def missing? (r : Record σ) (seen : List String) : Option String :=
  (r.fields.find? fun f => f.required && !seen.contains f.name).map (·.name)

def ofMembers (r : Record σ) : List String → σ → List (String × Value) → Except Cause σ
  | seen, s, [] =>
    match r.missing? seen with
    | some name => .error (.missingField name)
    | none => .ok s
  | seen, s, (name, v) :: ms =>
    match r.field? name with
    | none => r.ofMembers seen s ms
    | some f =>
      if seen.contains name then .error (.duplicateField name)
      else
        match f.set.ofValue v with
        | .error cause => .error cause
        | .ok set => r.ofMembers (name :: seen) (set s) ms

/-- Sets the fields from items. Items that are missing at the end leave their fields as they
are, if these are not required. The result tells how many items are left over. -/
def ofItems (r : Record σ) (total : Nat) :
    List (Field σ) → σ → List Value → Except Cause (σ × Nat)
  | [], s, vs => .ok (s, vs.length)
  | f :: fs, s, [] =>
    if f.required then .error (.wrongLength total r.expectedLength) else r.ofItems total fs s []
  | f :: fs, s, v :: vs =>
    match f.set.ofValue v with
    | .error cause => .error cause
    | .ok set => r.ofItems total fs (set s) vs

/-- The place of a fault in the names of an object: behind white space, and behind the closing
bracket if that comes next. -/
def placeInObject (inp : Input) : Place :=
  let inp := inp.skipSpace
  match inp.rest with
  | '}' :: _ => inp.skip.place
  | _ => inp.place

def readFields (r : Record σ) : (fuel : Nat) → (isFirst : Bool) → List String → σ → Reader σ
  | 0, _, _, _, inp => .error (inp.faultHere .endInObject)
  | fuel + 1, isFirst, seen, s, inp => do
    let (more, inp) ← nextMember isFirst inp
    if !more then
      match r.missing? seen with
      | some name => throw ⟨.missingField name, some inp.skip.place⟩
      | none => return (s, inp.skip)
    else
      let (name, inp) ← readString inp.skip
      match r.field? name with
      | none =>
        let inp ← readColon inp
        let inp ← skipValue inp
        r.readFields fuel false seen s inp
      | some f =>
        if seen.contains name then throw ⟨.duplicateField name, some (placeInObject inp)⟩
        else
          let inp ← readColon inp
          let (set, inp) ← f.set.read inp
          r.readFields fuel false (name :: seen) (set s) inp

def readListEnd (inp : Input) : Except Fault Input :=
  let inp := inp.skipSpace
  match inp.rest with
  | [] => .error (inp.faultNext .endInList)
  | ']' :: _ => .ok inp.skip
  | ',' :: _ =>
    let inp := inp.skip.skipSpace
    match inp.rest with
    | ']' :: _ => .error (inp.faultNext .trailingComma)
    | _ => .error (inp.faultNext .trailingCharacters)
  | _ => .error (inp.faultNext .trailingCharacters)

/-- Reads the items of a list as the fields of a record, and the closing bracket. `count` items
were read before. -/
def readElements (r : Record σ) : List (Field σ) → (count : Nat) → σ → Reader σ
  | [], _, s, inp => (readListEnd inp).map (s, ·)
  | f :: fs, count, s, inp => do
    let (more, inp) ← nextItem (count == 0) inp
    if more then
      let (set, inp) ← f.set.read inp
      r.readElements fs (count + 1) (set s) inp
    else if f.required then
      throw ⟨.wrongLength count r.expectedLength, some inp.skip.place⟩
    else r.readElements fs count s inp

end Record

def record {σ : Type} (r : Record σ) : Decoder σ where
  ofValue
    | .object ms => r.ofMembers [] r.empty ms
    | .array vs =>
      match r.ofItems vs.length r.fields r.empty vs with
      | .error cause => .error cause
      | .ok (s, 0) => .ok s
      | .ok (_, _ + 1) => .error (.wrongLength vs.length "fewer elements in array")
    | v => .error (.wrongType v.found r.title)
  read inp :=
    let inp := inp.skipSpace
    match inp.rest with
    | '{' :: _ => r.readFields (inp.rest.length + 1) true [] r.empty inp.skip
    | '[' :: _ => r.readElements r.fields 0 r.empty inp.skip
    | _ => .error (mismatch r.title inp)

end Decoder

def Decoder.parse {α : Type} (d : Decoder α) (text : String) : Except Fault α :=
  readAll d.read text

end BeanDoc.Json
