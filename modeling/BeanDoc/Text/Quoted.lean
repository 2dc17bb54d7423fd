import BeanDoc.Text.GraphemeExtend
import BeanDoc.Text.Unprintable

/-! Quoted text: a string between double quotes, with everything that would not show, or that would
attach to the character before it, written as an escape. -/

namespace BeanDoc.Text

def hexDigits (n : Nat) : List Char :=
  Nat.toDigits 16 n

def quoteChar (c : Char) : List Char :=
  match c with
  | '\x00' => ['\\', '0']
  | '\t' => ['\\', 't']
  | '\r' => ['\\', 'r']
  | '\n' => ['\\', 'n']
  | '\\' => ['\\', '\\']
  | '"' => ['\\', '"']
  | _ =>
    if 0x20 ≤ c.toNat && c.toNat < 0x7F then [c]
    else if inRuns graphemeExtendRuns c || inRuns unprintableRuns c then
      ['\\', 'u', '{'] ++ hexDigits c.toNat ++ ['}']
    else [c]

def quoted (s : String) : String :=
  String.ofList (['"'] ++ s.toList.flatMap quoteChar ++ ['"'])

end BeanDoc.Text
