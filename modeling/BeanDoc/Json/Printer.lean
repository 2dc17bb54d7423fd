import BeanDoc.Json.Value

/-! Writing JSON, on one line or with one item a line and an indentation of two spaces. -/

namespace BeanDoc.Json

def hexDigit (n : Nat) : Char :=
  "0123456789abcdef".toList.getD n '0'

def escapeChar (c : Char) : List Char :=
  match c with
  | '"' => ['\\', '"']
  | '\\' => ['\\', '\\']
  | '\x08' => ['\\', 'b']
  | '\x0c' => ['\\', 'f']
  | '\n' => ['\\', 'n']
  | '\r' => ['\\', 'r']
  | '\t' => ['\\', 't']
  | _ =>
    if c.toNat < 0x20 then
      ['\\', 'u', '0', '0', hexDigit (c.toNat / 16), hexDigit (c.toNat % 16)]
    else [c]

def printString (s : String) : List Char :=
  ['"'] ++ s.toList.flatMap escapeChar ++ ['"']

/-- Numbers that are not finite have no JSON form and are written as null. -/
def printFloat (x : Float) : List Char :=
  if x.isFinite then (floatFormat.render x).toList else ['n', 'u', 'l', 'l']

def printScalar : Value → List Char
  | .null => ['n', 'u', 'l', 'l']
  | .bool true => ['t', 'r', 'u', 'e']
  | .bool false => ['f', 'a', 'l', 's', 'e']
  | .int i => (toString i).toList
  | .float x => printFloat x
  | .string s => printString s
  | .array _ => []
  | .object _ => []

mutual

def compact : Value → List Char
  | .array [] => ['[', ']']
  | .array (v :: vs) => ['['] ++ compact v ++ compactItems vs ++ [']']
  | .object [] => ['{', '}']
  | .object ((n, v) :: ms) =>
    ['{'] ++ printString n ++ [':'] ++ compact v ++ compactMembers ms ++ ['}']
  | v => printScalar v

def compactItems : List Value → List Char
  | [] => []
  | v :: vs => [','] ++ compact v ++ compactItems vs

def compactMembers : List (String × Value) → List Char
  | [] => []
  | (n, v) :: ms => [','] ++ printString n ++ [':'] ++ compact v ++ compactMembers ms

end

def newLine (depth : Nat) : List Char :=
  '\n' :: List.replicate (2 * depth) ' '

mutual

def prettyAt (depth : Nat) : Value → List Char
  | .array [] => ['[', ']']
  | .array (v :: vs) =>
    ['['] ++ newLine (depth + 1) ++ prettyAt (depth + 1) v ++ prettyItems (depth + 1) vs ++
      newLine depth ++ [']']
  | .object [] => ['{', '}']
  | .object ((n, v) :: ms) =>
    ['{'] ++ newLine (depth + 1) ++ printString n ++ [':', ' '] ++ prettyAt (depth + 1) v ++
      prettyMembers (depth + 1) ms ++ newLine depth ++ ['}']
  | v => printScalar v

def prettyItems (depth : Nat) : List Value → List Char
  | [] => []
  | v :: vs => [','] ++ newLine depth ++ prettyAt depth v ++ prettyItems depth vs

def prettyMembers (depth : Nat) : List (String × Value) → List Char
  | [] => []
  | (n, v) :: ms =>
    [','] ++ newLine depth ++ printString n ++ [':', ' '] ++ prettyAt depth v ++
      prettyMembers depth ms

end

def Value.render (v : Value) : String :=
  String.ofList (compact v)

def Value.renderPretty (v : Value) : String :=
  String.ofList (prettyAt 0 v)

end BeanDoc.Json
