import BeanDoc.Template.Value.Order
import BeanDoc.Text.Split

/-! The operators on values. Integers have 128 bits; what does not fit cannot be calculated. Integer
division rounds so that the remainder is never negative. -/

namespace BeanDoc.Template

def intPower? (a b : Int) : Option Int :=
  match b with
  | .negSucc _ => none
  | .ofNat n =>
    if n ≥ Decimal.wordCount 32 then none
    else if a = 0 || a = 1 then some (if n = 0 then 1 else a)
    else if a = -1 then some (if n % 2 = 0 then 1 else -1)
    else if n > 127 then none
    else
      let p := Int.pow a n
      if fitsWide p then some p else none

namespace Value

def wide (op : String) (l r : Value) (i : Int) : Except EvalFault Value :=
  if fitsWide i then .ok (ofInt i) else .error (.incalculable l.print op r.print)

def unsupported {α : Type} (op : String) (l r : Value) : Except EvalFault α :=
  .error (.unsupported op l.kind r.kind)

def listItems? : Value → Option (List Value)
  | list _ items => some items
  | repeated items n => some (rounds items n)
  | _ => Option.none

def addNumbers (l r : Value) : Except EvalFault Value :=
  match pair? false l r with
  | some (.ints i j) => wide "+" l r (i + j)
  | some (.floats x y) => .ok (float (.combine (· + ·) x y))
  | Option.none => unsupported "+" l r

def add (l r : Value) : Except EvalFault Value :=
  match l, r with
  | string a _, string b _ => .ok (string (a ++ b))
  | l, r =>
    match l.listItems?, r.listItems? with
    | some as, some bs => .ok (list .iterator (as ++ bs))
    | _, _ => addNumbers l r

def sub (l r : Value) : Except EvalFault Value :=
  match pair? false l r with
  | some (.ints i j) => wide "-" l r (i - j)
  | some (.floats x y) => .ok (float (.combine (· - ·) x y))
  | Option.none => unsupported "-" l r

def count? (v : Value) : Option Nat :=
  match v.integer? with
  | some (.ofNat n) => if n < Decimal.wordCount 64 then some n else Option.none
  | _ => Option.none

def repeatLimit : Nat := 100000000

def repeatText (s : String) (n : Value) : Except EvalFault Value :=
  match n.count? with
  | some n =>
    if s.utf8ByteSize * n > repeatLimit then .error .textTooLong
    else if s.isEmpty then .ok (string s)
    else .ok (string (Nat.repeat (· ++ s) n ""))
  | Option.none => .error .badTextFactor

def repeatItems (items : List Value) (times : Nat) (n : Value) : Except EvalFault Value :=
  match n.count? with
  | some n => .ok (repeated items (times * n))
  | Option.none => .error .badListFactor

def mulNumbers (l r : Value) : Except EvalFault Value :=
  match pair? false l r with
  | some (.ints i j) => wide "*" l r (i * j)
  | some (.floats x y) => .ok (float (.combine (· * ·) x y))
  | Option.none => unsupported "*" l r

def mul (l r : Value) : Except EvalFault Value :=
  match l, r with
  | string s _, n => repeatText s n
  | n, string s _ => repeatText s n
  | list _ items, n => repeatItems items 1 n
  | repeated items times, n => repeatItems items times n
  | n, list _ items => if n.isObject then mulNumbers l r else repeatItems items 1 n
  | n, repeated items times => if n.isObject then mulNumbers l r else repeatItems items times n
  | _, _ => mulNumbers l r

/-- Division always gives a double. -/
def div (l r : Value) : Except EvalFault Value :=
  match l.double?, r.double? with
  | some x, some y => .ok (float (.combine (· / ·) x y))
  | _, _ => unsupported "/" l r

def floorDiv (l r : Value) : Except EvalFault Value :=
  match pair? false l r with
  | some (.ints i j) =>
    if j = 0 then .error (.incalculable l.print "//" r.print) else wide "//" l r (i / j)
  | some (.floats x y) => .ok (float (.combine floatQuotient x y))
  | Option.none => unsupported "//" l r

def rem (l r : Value) : Except EvalFault Value :=
  match pair? false l r with
  | some (.ints i j) =>
    if j = 0 || (i = Decimal.leastSigned 128 && j = -1) then
      .error (.incalculable l.print "%" r.print)
    else wide "%" l r (i % j)
  | some (.floats x y) => .ok (float (.combine floatRemainder x y))
  | Option.none => unsupported "%" l r

def pow (l r : Value) : Except EvalFault Value :=
  match pair? false l r with
  | some (.ints i j) =>
    match intPower? i j with
    | some p => .ok (ofInt p)
    | Option.none => .error (.incalculable l.print "**" r.print)
  | some (.floats x y) => .ok (float (x.pow y))
  | Option.none => unsupported "**" l r

def neg : Value → Except EvalFault Value
  | int form i =>
    -- the size of the least integer is taken for its own opposite
    if i = Decimal.wordCount 127 then .ok (int form i)
    else if !fitsWide i then .error .noNegative
    else if fitsWide (-i) then .ok (ofInt (-i))
    else .error .overflow
  | float x => .ok (float x.neg)
  | _ => .error .noNegative

def contains (container v : Value) : Except EvalFault Bool :=
  match container with
  | undefined => .ok false
  | string s _ => .ok (Text.occurs v.print.toList s.toList)
  | list _ items => .ok (items.any (equal · v))
  | repeated items n => .ok (n != 0 && items.any (equal · v))
  | function _ => .ok false
  | container =>
    match container.entries? with
    | some es => .ok (lookupEntry v es).isSome
    | Option.none => .error .noContainment

end Value

end BeanDoc.Template
