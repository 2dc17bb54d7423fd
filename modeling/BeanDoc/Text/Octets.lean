import BeanDoc.Text.HexDigit

/-! Texts with escaped octets: a percent sign and two hexadecimal digits stand for one octet. -/

namespace BeanDoc.Text

def octet? (a b : Char) : Option Nat :=
  hexNumber? [a, b]

def octets : List Char → List UInt8
  | [] => []
  | '%' :: a :: b :: cs =>
    match octet? a b with
    | some 0 => []
    | some n => UInt8.ofNat n :: octets cs
    -- a percent sign without two digits stands for itself
    | none => String.utf8EncodeChar '%' ++ octets (a :: b :: cs)
  | c :: cs => String.utf8EncodeChar c ++ octets cs

/-- The text of octets; if they are no text, each stands for the character with its number. -/
def ofOctets (bytes : List UInt8) : String :=
  match String.fromUTF8? ⟨bytes.toArray⟩ with
  | some s => s
  | none => String.ofList (bytes.map fun b => Char.ofNat b.toNat)

def unescapeOctets (cs : List Char) : String :=
  ofOctets (octets cs)

end BeanDoc.Text
