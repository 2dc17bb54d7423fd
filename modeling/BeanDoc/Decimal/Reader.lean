/-! Reading decimals: an optional sign, digits with an optional point and an optional exponent, or
the name of an infinity or of the value that is no number. -/

namespace BeanDoc.Decimal

def digitValue (c : Char) : Nat :=
  c.toNat - '0'.toNat

def ofDigits (cs : List Char) : Nat :=
  cs.foldl (fun n c => 10 * n + digitValue c) 0

/-- The double nearest to `mantissa * 10 ^ exponent`. Exponents far outside the range of doubles
give zero or infinity at once. -/
def toFloat (mantissa : Nat) (exponent : Int) : Float :=
  if mantissa == 0 then 0
  else
    let top := exponent + (Nat.toDigits 10 mantissa).length
    if top > 400 then 1.0 / 0.0
    else if top < -400 then 0
    else
      match exponent with
      | .ofNat e => Float.ofScientific mantissa false e
      | .negSucc e => Float.ofScientific mantissa true (e + 1)

def exponent? : List Char → Option Int
  | [] => some 0
  | c :: cs =>
    if c == 'e' || c == 'E' then
      let (negative, ds) :=
        match cs with
        | '-' :: ds => (true, ds)
        | '+' :: ds => (false, ds)
        | ds => (false, ds)
      if ds.isEmpty || !ds.all Char.isDigit then none
      else
        let n : Int := ofDigits ds
        some (if negative then -n else n)
    else none

def unsigned? (cs : List Char) : Option Float :=
  let whole := cs.takeWhile Char.isDigit
  let rest := cs.dropWhile Char.isDigit
  let (part, tail) :=
    match rest with
    | '.' :: r => (r.takeWhile Char.isDigit, r.dropWhile Char.isDigit)
    | r => ([], r)
  if whole.isEmpty && part.isEmpty then none
  else (exponent? tail).map fun e => toFloat (ofDigits (whole ++ part)) (e - part.length)

def float? (cs : List Char) : Option Float :=
  let (negative, body) :=
    match cs with
    | '-' :: r => (true, r)
    | '+' :: r => (false, r)
    | r => (false, r)
  let word := String.ofList (body.map Char.toLower)
  let value :=
    if word == "inf" || word == "infinity" then some (1.0 / 0.0)
    else if word == "nan" then some (0.0 / 0.0)
    else unsigned? body
  value.map fun x => if negative then -x else x

def int? (cs : List Char) : Option Int :=
  let (negative, body) :=
    match cs with
    | '-' :: r => (true, r)
    | '+' :: r => (false, r)
    | r => (false, r)
  if body.isEmpty || !body.all Char.isDigit then none
  else
    let n : Int := ofDigits body
    some (if negative then -n else n)

end BeanDoc.Decimal
