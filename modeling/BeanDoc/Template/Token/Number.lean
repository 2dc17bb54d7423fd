import BeanDoc.Decimal.Reader
import BeanDoc.Decimal.Word
import BeanDoc.Template.Fault
import BeanDoc.Template.Token
import BeanDoc.Text.HexDigit

/-! Number literals of a template: integers in base 2, 8, 10 and 16, and decimals with a fraction
or an exponent. An underscore may stand between digits. -/

namespace BeanDoc.Template

inductive NumberPart where
  | whole
  | fraction
  | exponentStart
  | exponent
  deriving DecidableEq, Repr

def startsExponent : List Char → Bool
  | e :: d :: _ => (e = 'e' || e = 'E') && (d.isDigit || d = '+' || d = '-')
  | _ => false

def NumberPart.next (part : NumberPart) (c : Char) (rest : List Char) : Option NumberPart :=
  if c.isDigit then
    if part = .exponentStart then some .exponent else some part
  else if c = '_' then some part
  else if c = '.' && part = .whole then
    -- a point does not belong to a number if a name follows that is no exponent
    if rest.head?.any isIdentStart && !startsExponent rest then none else some .fraction
  else if (c = 'e' || c = 'E') && (part = .whole || part = .fraction) then some .exponentStart
  else if (c = '+' || c = '-') && part = .exponentStart then some .exponent
  else none

def decimalChars (part : NumberPart) : List Char → List Char × NumberPart × List Char
  | [] => ([], part, [])
  | c :: cs =>
    match part.next c cs with
    | none => ([], part, c :: cs)
    | some next =>
      let (ds, last, rest) := decimalChars next cs
      (c :: ds, last, rest)

def isRadixChar (base : Nat) (c : Char) : Bool :=
  c.isDigit || c = '_' || (base = 16 && (Text.hexDigit? c).isSome)

def ofRadix? (base : Nat) (cs : List Char) : Option Nat :=
  if cs.isEmpty then none
  else
    cs.foldlM (fun n c =>
      match Text.hexDigit? c with
      | some d => if d < base then some (base * n + d) else none
      | none => none) 0

/-- The largest integer literal has 128 bits. -/
def integerToken (base : Nat) (cs : List Char) : Except FormFault Token :=
  match ofRadix? base cs with
  | some n => if n < Decimal.wordCount 128 then .ok (.int n) else .error .badInteger
  | none => .error .badInteger

def plainDigits (cs : List Char) : Except FormFault (List Char) :=
  if cs.getLast? = some '_' then .error .underscoreAtEnd else .ok (cs.filter (· ≠ '_'))

def radix? : List Char → Option (Nat × List Char)
  | '0' :: c :: cs =>
    match c with
    | 'b' | 'B' => some (2, cs)
    | 'o' | 'O' => some (8, cs)
    | 'x' | 'X' => some (16, cs)
    | _ => none
  | _ => none

def readNumber (cs : List Char) : Except FormFault (Token × List Char) :=
  match radix? cs with
  | some (base, ds) => do
    let digits ← plainDigits (ds.takeWhile (isRadixChar base))
    return (← integerToken base digits, ds.dropWhile (isRadixChar base))
  | none => do
    let (ds, part, rest) := decimalChars .whole cs
    let digits ← plainDigits ds
    if part = .whole then return (← integerToken 10 digits, rest)
    else
      match Decimal.float? digits with
      | some x => return (.float x, rest)
      | none => throw .badFloat

end BeanDoc.Template
