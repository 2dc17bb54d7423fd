import BeanDoc.Text.HexDigit

/-! Escapes in the string literals of a template: single letters, `\x` with two hexadecimal digits,
`\u` with four, and up to three octal digits. Behind any other character the backslash stays. -/

namespace BeanDoc.Template

/-- The number behind `\x` or `\u`: digits, in front of which a plus sign may stand. -/
def codeValue? : List Char → Option Nat
  | ['+'] => none
  | '+' :: ds => Text.hexNumber? ds
  | ds => Text.hexNumber? ds

def isHighHalf (n : Nat) : Bool :=
  0xD800 ≤ n && n ≤ 0xDBFF

def isLowHalf (n : Nat) : Bool :=
  0xDC00 ≤ n && n ≤ 0xDFFF

def isOctalDigit (c : Char) : Bool :=
  '0' ≤ c && c ≤ '7'

def octalChar? (ds : List Char) : Option Char :=
  let n := ds.foldl (fun n d => 8 * n + (d.toNat - '0'.toNat)) 0
  if n < 256 then some (Char.ofNat n) else none

def escapedChars : Char → List Char
  | '"' => ['"']
  | '\\' => ['\\']
  | '/' => ['/']
  | '\'' => ['\'']
  | 'b' => ['\x08']
  | 'f' => ['\x0c']
  | 'n' => ['\n']
  | 'r' => ['\r']
  | 't' => ['\t']
  | c => ['\\', c]

/-- The text that a string literal stands for. `pending` is the first half of a pair of escapes
that together stand for one character; the second half has to follow at once. -/
def unescape : (pending : Option Nat) → List Char → Option (List Char)
  | none, [] => some []
  | some _, [] => none
  | pending, '\\' :: 'u' :: a :: b :: c :: d :: cs =>
    match pending, codeValue? [a, b, c, d] with
    | _, none => none
    | none, some n =>
      if isHighHalf n || isLowHalf n then unescape (some n) cs
      else (unescape none cs).map (Char.ofNat n :: ·)
    | some h, some n =>
      if isHighHalf h && isLowHalf n then
        (unescape none cs).map (Char.ofNat (0x10000 + (h - 0xD800) * 0x400 + (n - 0xDC00)) :: ·)
      else none
  | some _, _ :: _ => none
  | none, ['\\'] => none
  | none, '\\' :: e :: cs =>
    if e = 'u' then none
    else if e = 'x' then
      match cs with
      | a :: b :: cs => do
        let n ← codeValue? [a, b]
        return Char.ofNat n :: (← unescape none cs)
      | _ => none
    else if isOctalDigit e then
      match cs with
      | a :: b :: cs => do
        if isOctalDigit a then
          if isOctalDigit b then return (← octalChar? [e, a, b]) :: (← unescape none cs)
          else return (← octalChar? [e, a]) :: (← unescape none (b :: cs))
        else return (← octalChar? [e]) :: (← unescape none (a :: b :: cs))
      | cs => do
        if cs.all isOctalDigit then return [← octalChar? (e :: cs)]
        else return (← octalChar? [e]) :: (← unescape none cs)
    else (unescape none cs).map (escapedChars e ++ ·)
  | none, c :: cs => (unescape none cs).map (c :: ·)

end BeanDoc.Template
