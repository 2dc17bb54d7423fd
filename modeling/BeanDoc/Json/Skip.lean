import BeanDoc.Json.Scalar

/-! Passing over a value whose content does not matter. Only its form is checked: numbers of any
size, halves of surrogate pairs and any depth are fine. -/

namespace BeanDoc.Json

def skipChars : (fuel : Nat) → Input → Except Fault Input
  | 0, inp => .error (inp.faultHere .endInString)
  | fuel + 1, inp =>
    match inp.rest with
    | [] => .error (inp.faultHere .endInString)
    | '"' :: _ => .ok inp.skip
    | '\\' :: _ =>
      let inp := inp.skip
      match inp.rest with
      | [] => .error (inp.faultHere .endInString)
      | 'u' :: _ =>
        match readHex inp.skip with
        | .error f => .error f
        | .ok (_, inp) => skipChars fuel inp
      | c :: _ =>
        if (shortEscape? c).isSome then skipChars fuel inp.skip
        else .error (inp.faultNext .invalidEscape)
    | c :: _ =>
      if c.toNat < 0x20 then .error (inp.faultHere .controlCharacter)
      else skipChars fuel inp.skip

def skipString (inp : Input) : Except Fault Input :=
  skipChars (inp.rest.length + 1) inp

inductive Bracket where
  | list
  | object
  deriving DecidableEq, Repr

namespace Bracket

def closer : Bracket → Char
  | list => ']'
  | object => '}'

def endFault : Bracket → TextFault
  | list => .endInList
  | object => .endInObject

def separatorFault : Bracket → TextFault
  | list => .expectedListEnd
  | object => .expectedObjectEnd

end Bracket

def skipName (open_ : Bracket) (inp : Input) : Except Fault Input :=
  match open_ with
  | .list => .ok inp
  | .object => do
    let inp := inp.skipSpace
    let inp ←
      match inp.rest with
      | [] => .error (inp.faultNext .endInObject)
      | '"' :: _ => skipString inp.skip
      | _ => .error (inp.faultNext .keyMustBeString)
    let inp := inp.skipSpace
    match inp.rest with
    | [] => .error (inp.faultNext .endInObject)
    | ':' :: _ => .ok inp.skip
    | _ => .error (inp.faultNext .expectedColon)

/-- Passes over the start of a value: all of it, or its opening bracket. -/
def skipStart (inp : Input) : Except Fault (Option Bracket × Input) :=
  match inp.rest with
  | [] => .error (inp.faultNext .endInValue)
  | 'n' :: _ => (readWord ['u', 'l', 'l'] inp.skip).map (none, ·)
  | 't' :: _ => (readWord ['r', 'u', 'e'] inp.skip).map (none, ·)
  | 'f' :: _ => (readWord ['a', 'l', 's', 'e'] inp.skip).map (none, ·)
  | '"' :: _ => (skipString inp.skip).map (none, ·)
  | '[' :: _ => .ok (some .list, inp.skip)
  | '{' :: _ => .ok (some .object, inp.skip)
  | c :: _ =>
    if c = '-' || c.isDigit then (readNumber false inp).map fun (_, inp) => (none, inp)
    else .error (inp.faultNext .expectedValue)

/-- Passes over closing brackets and a comma, up to the next value. `separated` says that a value
stands before. The result is the open brackets, none of them when the whole value is passed. -/
def skipEnd : (open_ : List Bracket) → (separated : Bool) → Input →
    Except Fault (List Bracket × Input)
  | [], _, inp => .ok ([], inp)
  | b :: bs, separated, inp =>
    let inp := inp.skipSpace
    match inp.rest with
    | [] => .error (inp.faultNext b.endFault)
    | c :: _ =>
      if c = b.closer then skipEnd bs true inp.skip
      else if !separated then .ok (b :: bs, inp)
      else if c = ',' then .ok (b :: bs, inp.skip)
      else .error (inp.faultNext b.separatorFault)

def skipNested : (fuel : Nat) → List Bracket → Input → Except Fault Input
  | 0, _, inp => .ok inp
  | fuel + 1, open_, inp => do
    let (bracket, inp) ← skipStart inp.skipSpace
    let (open_, inp) ← skipEnd (bracket.toList ++ open_) bracket.isNone inp
    match open_ with
    | [] => return inp
    | b :: _ => skipNested fuel open_ (← skipName b inp)

def skipValue (inp : Input) : Except Fault Input :=
  skipNested (inp.rest.length + 1) [] inp

end BeanDoc.Json
