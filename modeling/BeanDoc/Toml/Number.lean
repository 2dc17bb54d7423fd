import BeanDoc.Decimal.Reader
import BeanDoc.Decimal.Word
import BeanDoc.Text.HexDigit
import BeanDoc.Text.Split
import BeanDoc.Toml.Value

/-! Numbers, dates and times of configuration files. -/

namespace BeanDoc.Toml

/-- Digits of which each underscore stands between two; the result is without underscores. -/
def groups (isDigit : Char → Bool) (cs : List Char) : Option (List Char) :=
  let parts := Text.pieces '_' cs
  if parts.all fun p => !p.isEmpty && p.all isDigit then some parts.flatten else none

def wholeDigits? (cs : List Char) : Option (List Char) :=
  match groups Char.isDigit cs with
  | some ('0' :: _ :: _) => none
  | r => r

def splitSign : List Char → Bool × List Char
  | '-' :: cs => (true, cs)
  | '+' :: cs => (false, cs)
  | cs => (false, cs)

def int64? (i : Int) : Option Int :=
  if Decimal.fitsSigned 64 i then some i else none

def ofBase? (base : Nat) (cs : List Char) : Option Int := do
  let digits ← groups (fun c => (Text.hexDigit? c).any (· < base)) cs
  int64? (digits.foldl (fun n c => base * n + (Text.hexDigit? c).getD 0) 0 : Nat)

def integer? (cs : List Char) : Option Int :=
  match cs with
  | '0' :: 'x' :: ds => ofBase? 16 ds
  | '0' :: 'o' :: ds => ofBase? 8 ds
  | '0' :: 'b' :: ds => ofBase? 2 ds
  | cs => do
    let (negative, ds) := splitSign cs
    let n : Int := Decimal.ofDigits (← wholeDigits? ds)
    int64? (if negative then -n else n)

def exponent? (cs : List Char) : Option Int := do
  let (negative, ds) := splitSign cs
  let n : Int := Decimal.ofDigits (← groups Char.isDigit ds)
  return if negative then -n else n

/-- A double without sign: it has a fraction, an exponent or both. One that is too large is none. -/
def unsignedFloat? (cs : List Char) : Option Float := do
  let (lead, tail) := cs.span fun c => c ≠ 'e' && c ≠ 'E'
  let (whole, part) := lead.span (· ≠ '.')
  let digits ← wholeDigits? whole
  let fraction ← if part.isEmpty then some [] else groups Char.isDigit (part.drop 1)
  let e ← if tail.isEmpty then some 0 else exponent? (tail.drop 1)
  if part.isEmpty && tail.isEmpty then none
  else
    let x := Decimal.toFloat (Decimal.ofDigits (digits ++ fraction)) (e - fraction.length)
    if x.isInf then none else some x

def float? (cs : List Char) : Option Float :=
  let (negative, ds) := splitSign cs
  let size :=
    match String.ofList ds with
    | "inf" => some (1.0 / 0.0)
    | "nan" => some (0.0 / 0.0)
    | _ => unsignedFloat? ds
  size.map fun x => if negative then -x else x

def field? (count low high : Nat) (cs : List Char) : Option Nat :=
  if cs.length = count && cs.all Char.isDigit then
    let n := Decimal.ofDigits cs
    if low ≤ n && n ≤ high then some n else none
  else none

def isLeapYear (year : Nat) : Bool :=
  year % 4 = 0 && (year % 100 ≠ 0 || year % 400 = 0)

def daysIn (year month : Nat) : Nat :=
  if month = 2 then (if isLeapYear year then 29 else 28)
  else if [4, 6, 9, 11].contains month then 30
  else 31

def isDate (cs : List Char) : Bool :=
  match Text.pieces '-' cs with
  | [y, m, d] =>
    match field? 4 0 9999 y, field? 2 1 12 m with
    | some year, some month => (field? 2 1 (daysIn year month) d).isSome
    | _, _ => false
  | _ => false

def isTime (cs : List Char) : Bool :=
  match Text.pieces ':' cs with
  | [h, m, s] =>
    let (second, fraction) := s.span (· ≠ '.')
    (field? 2 0 23 h).isSome && (field? 2 0 59 m).isSome && (field? 2 0 60 second).isSome &&
      (fraction.isEmpty || (fraction.length > 1 && (fraction.drop 1).all Char.isDigit))
  | _ => false

def isOffsetTime (cs : List Char) : Bool :=
  let (time, offset) := cs.span fun c => c.isDigit || c = ':' || c = '.'
  isTime time &&
    match offset with
    | [] | ['Z'] | ['z'] => true
    | sign :: rest =>
      (sign = '+' || sign = '-') &&
        match Text.pieces ':' rest with
        | [h, m] => (field? 2 0 23 h).isSome && (field? 2 0 59 m).isSome
        | _ => false

def isDateTime (cs : List Char) : Bool :=
  let (date, time) := (cs.take 10, cs.drop 10)
  isTime cs || (isDate date &&
    match time with
    | [] => true
    | c :: time => (c = 'T' || c = 't' || c = ' ') && isOffsetTime time)

def ofWord (word : List Char) : Option Value :=
  match String.ofList word with
  | "true" => some (.bool true)
  | "false" => some (.bool false)
  | _ =>
    ((integer? word).map Value.int).or <|
      ((float? word).map Value.float).or <| if isDateTime word then some .date else none

end BeanDoc.Toml
