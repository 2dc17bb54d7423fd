import BeanDoc.Decimal.Word

/-! The shortest decimal of a binary fraction: the fewest digits that read back as the same
double, and of these the nearest to it. A finite double is `m * 2 ^ q`; all comparisons are made
in exact natural number arithmetic. -/

namespace BeanDoc.Decimal

structure Binary where
  significand : Nat
  exponent : Int

/-- A positive decimal, the digits behind the point times `10 ^ exponent`. -/
structure Scientific where
  digits : Nat
  count : Nat
  exponent : Int

/-- Sign, and the value unless it is zero; `none` for an infinity or a value that is no number. -/
def Binary.ofFloat (x : Float) : Bool × Option (Option Binary) :=
  let bits := x.toBits.toNat
  let sign := bits / wordCount 63 % 2 == 1
  let e : Nat := bits / wordCount 52 % 2048
  let f := bits % wordCount 52
  if e == 2047 then (sign, none)
  else if e == 0 then
    if f == 0 then (sign, some none) else (sign, some (some ⟨f, -1074⟩))
  else (sign, some (some ⟨f + wordCount 52, (e : Int) - 1075⟩))

structure Fraction where
  num : Nat
  den : Nat

def Fraction.scale (n : Nat) (base : Nat) (e : Int) : Fraction :=
  match e with
  | .ofNat k => ⟨n * Nat.pow base k, 1⟩
  | .negSucc k => ⟨n, Nat.pow base (k + 1)⟩

def Fraction.le (a b : Fraction) : Bool :=
  a.num * b.den ≤ b.num * a.den

def Fraction.lt (a b : Fraction) : Bool :=
  a.num * b.den < b.num * a.den

def Fraction.distance (a b : Fraction) : Fraction :=
  let x := a.num * b.den
  let y := b.num * a.den
  ⟨if x ≤ y then y - x else x - y, a.den * b.den⟩

def digitCount (n : Nat) : Nat :=
  (Nat.toDigits 10 n).length

/-- The `k` with `10 ^ (k - 1) ≤ a < 10 ^ k`. -/
def Fraction.magnitude (a : Fraction) : Int :=
  let e : Int := digitCount a.num - digitCount a.den
  if (Fraction.scale 1 10 e).le a then e + 1 else e

/-- The reals that round to a double, and whether the ends of the interval do. -/
structure Interval where
  low : Fraction
  high : Fraction
  closed : Bool

def Interval.contains (i : Interval) (a : Fraction) : Bool :=
  if i.closed then i.low.le a && a.le i.high else i.low.lt a && a.lt i.high

def Binary.interval (b : Binary) : Interval :=
  -- below a power of two the doubles are twice as dense
  let edge := b.significand == wordCount 52 && b.exponent > -1074
  let m := 4 * b.significand
  { low := .scale (m - (if edge then 1 else 2)) 2 (b.exponent - 2)
    high := .scale (m + 2) 2 (b.exponent - 2)
    closed := b.significand % 2 == 0 }

/-- Which of two decimals is taken that are as near: the greater one, or the one with an even last
digit. -/
inductive Tie where
  | up
  | toEven
  deriving DecidableEq, Repr

def Tie.isUp (below : Nat) : Tie → Bool
  | up => true
  | toEven => below % 2 == 1

/-- The better of the two neighbours of `a` on the grid of `count` digits, if one of them lies in
the interval. -/
def onGrid (tie : Tie) (i : Interval) (a : Fraction) (k : Int) (count : Nat) : Option Nat :=
  let unit : Int := k - count
  let below :=
    match unit with
    | .ofNat e => a.num / (a.den * Nat.pow 10 e)
    | .negSucc e => a.num * Nat.pow 10 (e + 1) / a.den
  let value (n : Nat) := Fraction.scale n 10 unit
  match i.contains (value below), i.contains (value (below + 1)) with
  | true, true =>
    let down := a.distance (value below)
    let up := a.distance (value (below + 1))
    if up.lt down || (!down.lt up && tie.isUp below) then some (below + 1) else some below
  | true, false => some below
  | false, true => some (below + 1)
  | false, false => none

def Binary.shortest (tie : Tie) (b : Binary) : Scientific :=
  let a := Fraction.scale b.significand 2 b.exponent
  let k := a.magnitude
  let i := b.interval
  let rec go (count : Nat) : Nat → Scientific
    -- seventeen digits always suffice
    | 0 => ⟨(onGrid tie i a k 17).getD 0, 17, k⟩
    | left + 1 =>
      match onGrid tie i a k count with
      | some n => if n == Nat.pow 10 count then ⟨1, 1, k + 1⟩ else ⟨n, count, k⟩
      | none => go (count + 1) left
  go 1 17

def Scientific.digitList (s : Scientific) : List Char :=
  let ds := Nat.toDigits 10 s.digits
  let padded := List.replicate (s.count - ds.length) '0' ++ ds
  (padded.reverse.dropWhile (· == '0')).reverse

def Scientific.positional (s : Scientific) : List Char :=
  let ds := s.digitList
  match s.exponent with
  | .negSucc k => ['0', '.'] ++ List.replicate (k + 1) '0' ++ ds
  | .ofNat 0 => ['0', '.'] ++ ds
  | .ofNat k =>
    if ds.length ≤ k then ds ++ List.replicate (k - ds.length) '0'
    else ds.take k ++ ['.'] ++ ds.drop k

def Scientific.withExponent (plus : Bool) (s : Scientific) : List Char :=
  let lead :=
    match s.digitList with
    | [] => ['0']
    | [d] => [d]
    | d :: ds => [d, '.'] ++ ds
  let sign := if plus && s.exponent ≥ 1 then ['+'] else []
  lead ++ ['e'] ++ sign ++ (toString (s.exponent - 1)).toList

structure FloatFormat where
  infinity : String := "inf"
  notANumber : String := "NaN"
  /-- The least exponent that is not written, if there is one. -/
  least : Option Int := none
  /-- The greatest exponent that is not written, if there is one. -/
  greatest : Option Int := none
  /-- Whether a plus sign stands before an exponent. -/
  plus : Bool := false
  /-- Which of two decimals is taken that are as near. -/
  tie : Tie := .up

def FloatFormat.digits (fmt : FloatFormat) (s : Scientific) : List Char :=
  let e := s.exponent - 1
  if fmt.least.all (· ≤ e) && fmt.greatest.all (e ≤ ·) then
    let text := s.positional
    if text.contains '.' then text else text ++ ['.', '0']
  else s.withExponent fmt.plus

def FloatFormat.render (fmt : FloatFormat) (x : Float) : String :=
  match Binary.ofFloat x with
  | (sign, none) =>
    if x.isNaN then fmt.notANumber else (if sign then "-" else "") ++ fmt.infinity
  | (sign, some none) => if sign then "-0.0" else "0.0"
  | (sign, some (some b)) =>
    (if sign then "-" else "") ++ String.ofList (fmt.digits (b.shortest fmt.tie))

end BeanDoc.Decimal
