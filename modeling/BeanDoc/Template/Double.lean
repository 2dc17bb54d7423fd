import BeanDoc.Decimal.Shortest

/-! The doubles that templates calculate with. One that is no number has a sign, which shows only in
the order of doubles. -/

namespace BeanDoc.Template

inductive Double where
  | number (x : Float)
  | notANumber (negative : Bool)
  deriving Inhabited

def binaryRemainder (a b : Decimal.Binary) : Float :=
  let e := min a.exponent b.exponent
  let m := a.significand * Nat.pow 2 (a.exponent - e).toNat
  let n := b.significand * Nat.pow 2 (b.exponent - e).toNat
  let r := m % n
  let shift := Nat.log2 r - 52
  (Float.ofScientific (r / Nat.pow 2 shift) false 0).scaleB (e + shift)

def floatRemainder (x y : Float) : Float :=
  match Decimal.Binary.ofFloat x, Decimal.Binary.ofFloat y with
  | (_, none), _ => 0.0 / 0.0
  | _, (_, some none) => 0.0 / 0.0
  | _, (_, none) => x
  | (_, some none), _ => x
  | (sign, some (some a)), (_, some (some b)) =>
    let r := binaryRemainder a b
    if sign then -r else r

/-- The quotient of numbers, rounded so that the remainder is not negative. -/
def floatQuotient (x y : Float) : Float :=
  let q := x / y
  let whole := if q < 0 then q.ceil else q.floor
  if floatRemainder x y < 0 then
    if y > 0 then whole - 1 else whole + 1
  else whole

def floatPower : (fuel : Nat) → (base : Float) → (n : Nat) → (result : Float) → Float
  | 0, _, _, r => r
  | fuel + 1, x, n, r =>
    let r := if n % 2 = 1 then r * x else r
    if n / 2 = 0 then r else floatPower fuel (x * x) (n / 2) r

def powerOfTen (e : Int) : Float :=
  let p := floatPower 32 10 e.natAbs 1
  if e < 0 then 1 / p else p

def truncate? (x : Float) : Option Int :=
  match Decimal.Binary.ofFloat x with
  | (_, none) => none
  | (_, some none) => some 0
  | (sign, some (some b)) =>
    let n : Int :=
      match b.exponent with
      | .ofNat e => (b.significand * Nat.pow 2 e : Nat)
      | .negSucc e => (b.significand / Nat.pow 2 (e + 1) : Nat)
    some (if sign then -n else n)

def floatOfInt (i : Int) : Float :=
  match i with
  | .ofNat n => Float.ofScientific n false 0
  | .negSucc n => -(Float.ofScientific (n + 1) false 0)

namespace Double

/-- The result of a calculation. One that is no number has a minus sign. -/
def ofFloat (x : Float) : Double :=
  if x.isNaN then notANumber true else number x

def ofInt (i : Int) : Double :=
  number (floatOfInt i)

def toFloat : Double → Float
  | number x => x
  | notANumber _ => 0.0 / 0.0

def isZero : Double → Bool
  | number x => x == 0
  | notANumber _ => false

/-- Calculates with two doubles. If one of them is no number, the first such is the result. -/
def combine (f : Float → Float → Float) : Double → Double → Double
  | notANumber s, _ => notANumber s
  | _, notANumber s => notANumber s
  | number x, number y => ofFloat (f x y)

/-- The power of a double. Any power of one and anything to the power of zero is one. -/
def pow (a b : Double) : Double :=
  match a, b with
  | number x, notANumber s => if x == 1 then number 1 else notANumber s
  | notANumber s, number y => if y == 0 then number 1 else notANumber s
  | a, b => combine Float.pow a b

def neg : Double → Double
  | number x => number (-x)
  | notANumber s => notANumber !s

def abs : Double → Double
  | number x => number x.abs
  | notANumber _ => notANumber false

def round (places : Int) : Double → Double
  | number x => ofFloat ((powerOfTen places * x).round / powerOfTen places)
  | notANumber s => notANumber s

/-- The integer part of a double within so many bits; zero of what is no number. -/
def saturate (bits : Nat) : Double → Int
  | number x =>
    match truncate? x with
    | some i => max (Decimal.leastSigned bits) (min (Decimal.greatestSigned bits) i)
    | none => if x > 0 then Decimal.greatestSigned bits else Decimal.leastSigned bits
  | notANumber _ => 0

/-- The integer of 64 bits that a double is. It is checked by converting back, so that the double
right behind the greatest integer counts as that integer. -/
def integer? : Double → Option Int
  | number x =>
    let i := (number x).saturate 64
    if floatOfInt i == x then some i else none
  | notANumber _ => none

def equal : Double → Double → Bool
  | number x, number y => x == y
  | _, _ => false

def key : Double → Int
  | number x =>
    let bits := x.toBits.toNat
    let half := Decimal.wordCount 63
    if bits < half then bits else -((bits - half : Nat) : Int) - 1
  -- what is no number stands at the end that its sign tells
  | notANumber negative =>
    if negative then -(Decimal.wordCount 64 : Int) else Decimal.wordCount 64

/-- The order of doubles: equal ones first of all, and otherwise the total order. -/
def order (a b : Double) : Ordering :=
  if a.equal b then .eq else compare a.key b.key

def orderInt (i : Int) : Double → Ordering
  | number x =>
    match truncate? x with
    | none => compare 0 (number x).key
    | some t => (compare i t).then ((ofInt t).order (number x))
  | notANumber s => compare 0 (notANumber s).key

end Double

end BeanDoc.Template
