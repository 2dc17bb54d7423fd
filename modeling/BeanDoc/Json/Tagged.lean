import BeanDoc.Json.Decoder

/-! Records of several forms, told apart by a member, the tag. All other members are read first,
whatever the form, so that a fault in them has no place any more. In a list the tag is the first
item. -/

namespace BeanDoc.Json

structure Tagged (σ : Type) where
  tag : String
  title : String
  forms : List (String × Decoder.Record σ)

namespace Tagged

variable {σ : Type}

def readTag (t : Tagged σ) : Reader (Decoder.Record σ) := fun inp =>
  let inp := inp.skipSpace
  match inp.rest with
  | '"' :: _ => do
    let (name, inp) ← readString inp.skip
    match Decoder.choiceOf t.forms name with
    | .ok form => return (form, inp)
    | .error cause => throw ⟨cause, some inp.place⟩
  | _ => .error (Decoder.mismatch "variant identifier" inp)

/-- A member besides the tag. Objects keep the order of their members. -/
def readPart : Reader Value :=
  readValue id (depthLimit - 1)

def readMembers (t : Tagged σ) : (fuel : Nat) → (isFirst : Bool) → Option (Decoder.Record σ) →
    Reader (Option (Decoder.Record σ) × List (String × Value))
  | 0, _, _, inp => .error (inp.faultHere .endInObject)
  | fuel + 1, isFirst, form, inp => do
    let (more, inp) ← nextMember isFirst inp
    if !more then return ((form, []), inp.skip)
    else
      let (name, inp) ← readString inp.skip
      if name = t.tag then
        if form.isSome then
          throw ⟨.duplicateField name, some (Decoder.Record.placeInObject inp)⟩
        else
          let inp ← readColon inp
          let (form, inp) ← t.readTag inp
          t.readMembers fuel false (some form) inp
      else
        let inp ← readColon inp
        let (v, inp) ← readPart inp
        let ((form, ms), inp) ← t.readMembers fuel false form inp
        return ((form, (name, v) :: ms), inp)

def ofItems (form : Decoder.Record σ) (vs : List Value) : Except Cause σ :=
  match form.ofItems vs.length form.fields form.empty vs with
  | .error cause => .error cause
  | .ok (s, 0) => .ok s
  | .ok (_, _ + 1) =>
    .error (.wrongLength vs.length (toString form.fields.length ++
      (if form.fields.length = 1 then " element" else " elements") ++ " in sequence"))

def readRest : Reader (List Value) := fun inp =>
  readItems readPart (inp.rest.length + 1) false inp

def read (t : Tagged σ) : Reader σ := fun inp =>
  let inp := inp.skipSpace
  let placeless (r : Except Cause σ) (inp : Input) : Except Fault (σ × Input) :=
    match r with
    | .ok s => .ok (s, inp)
    | .error cause => .error ⟨cause, none⟩
  match inp.rest with
  | '{' :: _ => do
    let ((form, ms), inp) ← t.readMembers (inp.rest.length + 1) true none inp.skip
    match form with
    | none => throw ⟨.missingField t.tag, some inp.place⟩
    | some form => placeless (form.ofMembers [] form.empty ms) inp
  | '[' :: _ => do
    let (more, inp) ← nextItem true inp.skip
    if !more then throw ⟨.missingField t.tag, some inp.skip.place⟩
    else
      let (form, inp) ← t.readTag inp
      let (vs, inp) ← readRest inp
      placeless (ofItems form vs) inp
  | _ => .error (Decoder.mismatch t.title inp)

def parse (t : Tagged σ) (text : String) : Except Fault σ :=
  readAll t.read text

end Tagged

end BeanDoc.Json
