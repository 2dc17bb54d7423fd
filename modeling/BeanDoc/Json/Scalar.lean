import BeanDoc.Decimal.Reader
import BeanDoc.Decimal.Word
import BeanDoc.Json.Input
import BeanDoc.Json.Value
import BeanDoc.Text.HexDigit

/-! Reading words, numbers and strings of JSON. -/

namespace BeanDoc.Json

def readWord : List Char → Input → Except Fault Input
  | [], inp => .ok inp
  | w :: ws, inp =>
    match inp.rest with
    | [] => .error (inp.faultHere .endInValue)
    | c :: _ => if c = w then readWord ws inp.skip else .error (inp.faultNext .expectedIdent)

structure ExponentText where
  negative : Bool
  digits : List Char
  /-- The input behind the digit with which the exponent gets too large for 32 bits. -/
  overflow : Option Input

def ExponentText.value (e : ExponentText) : Int :=
  if e.negative then -(Decimal.ofDigits e.digits : Int) else Decimal.ofDigits e.digits

structure NumberText where
  negative : Bool
  whole : List Char
  /-- The digits behind the point, if there is a point. -/
  fraction : Option (List Char)
  exponent : Option ExponentText

/-- The texts that end too early in a number: they end while a value is read, or are no number. -/
def endOfNumber (strict : Bool) : TextFault :=
  if strict then .endInValue else .invalidNumber

/-- The input behind the digit with which the number of the digits gets too large, if there is such
a digit. -/
def overflowFrom (limit : Nat) : (n : Nat) → List Char → Input → Option Input
  | _, [], _ => none
  | n, c :: cs, inp =>
    let next := 10 * n + Decimal.digitValue c
    if next > limit then some inp.skip else overflowFrom limit next cs inp.skip

def readExponent (strict : Bool) (inp : Input) : Except Fault (ExponentText × Input) :=
  let (negative, inp) :=
    match inp.rest with
    | '-' :: _ => (true, inp.skip)
    | '+' :: _ => (false, inp.skip)
    | _ => (false, inp)
  match inp.rest with
  | [] => .error (inp.faultHere (endOfNumber strict))
  | c :: _ =>
    if c.isDigit then
      let digits := inp.rest.takeWhile Char.isDigit
      let limit := (Decimal.greatestSigned 32).toNat
      .ok (⟨negative, digits, overflowFrom limit 0 digits inp⟩, inp.dropWhile Char.isDigit)
    else .error (inp.faultNext .invalidNumber)

/-- Reads a number. With `strict` a text that ends inside it is at fault for ending, otherwise for
being no number. -/
def readNumber (strict : Bool) (inp : Input) : Except Fault (NumberText × Input) := do
  let (negative, inp) :=
    match inp.rest with
    | '-' :: _ => (true, inp.skip)
    | _ => (false, inp)
  let (whole, inp) ←
    match inp.rest with
    | [] => .error (inp.faultHere (endOfNumber strict))
    | '0' :: cs =>
      match cs with
      | c :: _ =>
        if c.isDigit then .error (inp.skip.faultNext .invalidNumber)
        else .ok (['0'], inp.skip)
      | [] => .ok (['0'], inp.skip)
    | c :: cs =>
      if c.isDigit then .ok (c :: cs.takeWhile Char.isDigit, inp.dropWhile Char.isDigit)
      else .error (inp.faultNext .invalidNumber)
  let (fraction, inp) ←
    match inp.rest with
    | '.' :: cs =>
      let digits := cs.takeWhile Char.isDigit
      if digits.isEmpty then
        .error (inp.skip.faultNext (if cs.isEmpty then endOfNumber strict else .invalidNumber))
      else .ok (some digits, inp.skip.dropWhile Char.isDigit)
    | _ => .ok (none, inp)
  match inp.rest with
  | c :: _ =>
    if c = 'e' || c = 'E' then
      let (e, inp) ← readExponent strict inp.skip
      return (⟨negative, whole, fraction, some e⟩, inp)
    else return (⟨negative, whole, fraction, none⟩, inp)
  | [] => return (⟨negative, whole, fraction, none⟩, inp)

/-- The digits that fit a significand of 64 bits, as a number, and how many were left out. -/
def significand (limit : Nat) : Nat → List Char → Nat × Nat
  | n, [] => (n, 0)
  | n, c :: cs =>
    let next := 10 * n + Decimal.digitValue c
    if next < limit then significand limit next cs else (n, (c :: cs).length)

def powerOfTen (e : Nat) : Float :=
  Float.ofScientific 1 false e

/-- A significand scaled by a power of ten, in the steps that doubles allow; `none` if it is too
large. -/
def scaleFloat (x : Float) (e : Int) : Nat → Option Float
  | 0 => some 0
  | steps + 1 =>
    if e.natAbs ≤ 308 then
      if e < 0 then some (x / powerOfTen e.natAbs)
      else
        let y := x * powerOfTen e.natAbs
        if y.isInf then none else some y
    else if x == 0 then some x
    else if e < 0 then scaleFloat (x / powerOfTen 308) (e + 308) steps
    else none

def NumberText.toFloat? (t : NumberText) : Option Float :=
  let part := t.fraction.getD []
  let (n, left) := significand (Decimal.wordCount 64) 0 t.whole
  -- digits beyond 64 bits are not looked at, but those behind the point are tried anew
  let (n, unread) := significand (Decimal.wordCount 64) n part
  let e : Int := (left : Int) + unread - part.length + (t.exponent.map ExponentText.value).getD 0
  (scaleFloat (Float.ofScientific n false 0) e 10).map fun x => if t.negative then -x else x

/-- The value of a number: an integer if it has no point and no exponent and fits 64 bits, and a
double otherwise. -/
def NumberText.value? (t : NumberText) : Option Value :=
  let n := Decimal.ofDigits t.whole
  if t.fraction.isNone && t.exponent.isNone then
    if t.negative then
      if n == 0 then some (.float (-0.0))
      else if Decimal.fitsSigned 64 (-n) then some (.int (-n))
      else t.toFloat?.map .float
    else if n < Decimal.wordCount 64 then some (.int n)
    else t.toFloat?.map .float
  else t.toFloat?.map .float

def NumberText.isZero (t : NumberText) : Bool :=
  (t.whole ++ t.fraction.getD []).all (· = '0')

def readNumberValue : Reader Value := fun inp => do
  let (t, inp) ← readNumber true inp
  match t.exponent.bind (·.overflow), t.value? with
  | some behind, _ =>
    -- the exponent does not fit, so that the number is zero or out of range
    if t.isZero || t.exponent.any (·.negative) then
      return (.float (if t.negative then -0.0 else 0), inp)
    else throw (behind.faultHere .numberOutOfRange)
  | none, some v => return (v, inp)
  | none, none => throw (inp.faultHere .numberOutOfRange)

def readHex : Reader Nat := fun inp =>
  if inp.size < 4 then .error ⟨.text .endInString, some inp.lastPlace⟩
  else
    match inp.bytes 4 with
    | (p, some after) =>
      match Text.hexNumber? (inp.rest.take (inp.rest.length - after.rest.length)) with
      | some n => .ok (n, after)
      | none => .error ⟨.text .invalidEscape, some p⟩
    | (p, none) => .error ⟨.text .invalidEscape, some p⟩

def readPairChar (c : Char) (inp : Input) : Except Fault Input :=
  match inp.rest with
  | [] => .error (inp.faultHere .endInString)
  | d :: _ => if d = c then .ok inp.skip else .error (inp.faultNext .endOfHexEscape)

def readUnicode : Reader Char := fun inp => do
  let (n, inp) ← readHex inp
  if 0xDC00 ≤ n && n ≤ 0xDFFF then throw (inp.faultHere .loneSurrogate)
  if n < 0xD800 || n > 0xDBFF then return (Char.ofNat n, inp)
  -- characters beyond the first plane are written as a pair of escapes
  let inp ← readPairChar '\\' inp
  let inp ← readPairChar 'u' inp
  let (m, inp) ← readHex inp
  if m < 0xDC00 || m > 0xDFFF then throw (inp.faultHere .loneSurrogate)
  return (Char.ofNat (0x10000 + (n - 0xD800) * 0x400 + (m - 0xDC00)), inp)

def shortEscape? : Char → Option Char
  | '"' => some '"'
  | '\\' => some '\\'
  | '/' => some '/'
  | 'b' => some '\x08'
  | 'f' => some '\x0c'
  | 'n' => some '\n'
  | 'r' => some '\r'
  | 't' => some '\t'
  | _ => none

def readChars : (fuel : Nat) → List Char → Reader (List Char)
  | 0, _, inp => .error (inp.faultHere .endInString)
  | fuel + 1, acc, inp =>
    match inp.rest with
    | [] => .error (inp.faultHere .endInString)
    | '"' :: _ => .ok (acc.reverse, inp.skip)
    | '\\' :: _ =>
      let inp := inp.skip
      match inp.rest with
      | [] => .error (inp.faultHere .endInString)
      | 'u' :: _ =>
        match readUnicode inp.skip with
        | .error f => .error f
        | .ok (c, inp) => readChars fuel (c :: acc) inp
      | c :: _ =>
        match shortEscape? c with
        | some d => readChars fuel (d :: acc) inp.skip
        | none => .error (inp.faultNext .invalidEscape)
    | c :: _ =>
      if c.toNat < 0x20 then .error (inp.skip.faultHere .controlCharacter)
      else readChars fuel (c :: acc) inp.skip

def readString : Reader String := fun inp => do
  let (cs, inp) ← readChars (inp.rest.length + 1) [] inp
  return (String.ofList cs, inp)

end BeanDoc.Json
