import BeanDoc.Text.HexDigit

/-! Texts of configuration files: in double quotes with escapes or in single quotes without, on one
line, or on several between three quotes. -/

namespace BeanDoc.Toml

def isSpace (c : Char) : Bool :=
  c = ' ' || c = '\t'

def isControl (c : Char) : Bool :=
  (c.toNat < 0x20 && c ≠ '\t') || c.toNat = 0x7F

def codeChar? (digits : List Char) : Option Char :=
  (Text.hexNumber? digits).bind fun n => if n.isValidChar then some (Char.ofNat n) else none

def escapedChar? : Char → Option Char
  | 'b' => some '\x08'
  | 't' => some '\t'
  | 'n' => some '\n'
  | 'f' => some '\x0c'
  | 'r' => some '\r'
  | '"' => some '"'
  | '\\' => some '\\'
  | _ => none

def withChar (c : Char) (r : Option (List Char × List Char)) : Option (List Char × List Char) :=
  r.map fun (s, rest) => (c :: s, rest)

def readBasic : List Char → Option (List Char × List Char)
  | [] => none
  | '"' :: cs => some ([], cs)
  | '\\' :: 'u' :: a :: b :: c :: d :: cs => do
    withChar (← codeChar? [a, b, c, d]) (readBasic cs)
  | '\\' :: 'U' :: a :: b :: c :: d :: e :: f :: g :: h :: cs => do
    withChar (← codeChar? [a, b, c, d, e, f, g, h]) (readBasic cs)
  | '\\' :: c :: cs => do withChar (← escapedChar? c) (readBasic cs)
  | c :: cs => if isControl c then none else withChar c (readBasic cs)

def readLiteral : List Char → Option (List Char × List Char)
  | [] => none
  | '\'' :: cs => some ([], cs)
  | c :: cs => if isControl c then none else withChar c (readLiteral cs)

def endsLine (cs : List Char) : Bool :=
  match cs.dropWhile isSpace with
  | '\n' :: _ => true
  | '\r' :: '\n' :: _ => true
  | _ => false

def dropLineEnd : List Char → List Char
  | '\n' :: cs => cs
  | '\r' :: '\n' :: cs => cs
  | cs => cs

/-- The rest of a text between three double quotes. Behind a backslash at the end of a line blanks
and line ends do not count, which is what `joining` stands for. -/
def readLongBasic : (joining : Bool) → List Char → Option (List Char × List Char)
  | _, [] => none
  | true, '\n' :: cs => readLongBasic true cs
  | true, '\r' :: '\n' :: cs => readLongBasic true cs
  | true, ' ' :: cs => readLongBasic true cs
  | true, '\t' :: cs => readLongBasic true cs
  | _, '"' :: '"' :: '"' :: '"' :: '"' :: cs => some (['"', '"'], cs)
  | _, '"' :: '"' :: '"' :: '"' :: cs => some (['"'], cs)
  | _, '"' :: '"' :: '"' :: cs => some ([], cs)
  | _, '\\' :: 'u' :: a :: b :: c :: d :: cs => do
    withChar (← codeChar? [a, b, c, d]) (readLongBasic false cs)
  | _, '\\' :: 'U' :: a :: b :: c :: d :: e :: f :: g :: h :: cs => do
    withChar (← codeChar? [a, b, c, d, e, f, g, h]) (readLongBasic false cs)
  | _, '\\' :: c :: cs =>
    if endsLine (c :: cs) then readLongBasic true (c :: cs)
    else do withChar (← escapedChar? c) (readLongBasic false cs)
  | _, '\n' :: cs => withChar '\n' (readLongBasic false cs)
  | _, '\r' :: '\n' :: cs => withChar '\n' (readLongBasic false cs)
  | _, c :: cs => if isControl c then none else withChar c (readLongBasic false cs)

def readLongLiteral : List Char → Option (List Char × List Char)
  | [] => none
  | '\'' :: '\'' :: '\'' :: '\'' :: '\'' :: cs => some (['\'', '\''], cs)
  | '\'' :: '\'' :: '\'' :: '\'' :: cs => some (['\''], cs)
  | '\'' :: '\'' :: '\'' :: cs => some ([], cs)
  | '\n' :: cs => withChar '\n' (readLongLiteral cs)
  | '\r' :: '\n' :: cs => withChar '\n' (readLongLiteral cs)
  | c :: cs => if isControl c then none else withChar c (readLongLiteral cs)

def readText : List Char → Option (List Char × List Char)
  | '"' :: '"' :: '"' :: cs => readLongBasic false (dropLineEnd cs)
  | '\'' :: '\'' :: '\'' :: cs => readLongLiteral (dropLineEnd cs)
  | '"' :: cs => readBasic cs
  | '\'' :: cs => readLiteral cs
  | _ => none

end BeanDoc.Toml
