import BeanDoc.Template.Token.Scanner

/-! Reading tokens. A fault of the scanner is met only when its place in the tokens is reached. -/

namespace BeanDoc.Template

/-- The tokens that are left, the line of the last one read, the fault that ended scanning, and what
has to be known of the statements read so far. -/
structure Stream where
  rest : List Located
  last : Nat
  fault : Option (FormFault × Option Nat)
  /-- The names of the blocks that there are already. -/
  blocks : List String := []
  inProcedure : Bool := false

abbrev LocatedFault := FormFault × Nat

abbrev Parser (α : Type) := Stream → Except LocatedFault (α × Stream)

namespace Parser

instance : Monad Parser where
  pure a := fun s => .ok (a, s)
  bind p f := fun s =>
    match p s with
    | .error e => .error e
    | .ok (a, s) => f a s

def fail {α : Type} (f : FormFault) : Parser α := fun s =>
  .error (f, s.last)

def peek : Parser (Option Token) := fun s =>
  match s.rest with
  | t :: _ => .ok (some t.token, s)
  | [] =>
    match s.fault with
    | some (f, line) => .error (f, line.getD s.last)
    | none => .ok (none, s)

def peekLine : Parser Nat := fun s =>
  match s.rest with
  | t :: _ => .ok (t.line, s)
  | [] => .ok (s.last, s)

def lastLine : Parser Nat := fun s =>
  .ok (s.last, s)

def size : Parser Nat := fun s =>
  .ok (s.rest.length, s)

def advance : Parser Unit := fun s =>
  match s.rest with
  | t :: rest => .ok ((), { s with rest := rest, last := t.line })
  | [] => .ok ((), s)

/-- Takes a fault of the scanner for the end, if it comes next. -/
def endAtFault : Parser Unit := fun s =>
  .ok ((), if s.rest.isEmpty then { s with fault := none } else s)

def next : Parser (Option Token) := do
  let t ← peek
  advance
  return t

def matchesNext (p : Token → Bool) : Parser Bool := do
  return (← peek).any p

def skipIf (p : Token → Bool) : Parser Bool := do
  if ← matchesNext p then
    advance
    return true
  else return false

def skipMark (s : String) : Parser Bool :=
  skipIf (Token.isMark s)

def skipIdent (name : String) : Parser Bool :=
  skipIf (Token.isIdent name)

def expect (p : Token → Bool) (expected : String) : Parser Unit := do
  match ← next with
  | none => fail (.unexpectedEnd expected)
  | some t => if p t then return () else fail (.unexpected t.describe (some expected))

def expectMark (s : String) : Parser Unit :=
  expect (Token.isMark s) ("`" ++ s ++ "`")

def identifier : Parser String := do
  match ← next with
  | none => fail (.unexpectedEnd "identifier")
  | some (.ident name) => return name
  | some t => fail (.unexpected t.describe (some "identifier"))

def dottedRest : (fuel : Nat) → Parser String
  | 0 => return ""
  | fuel + 1 => do
    if ← skipMark "." then
      let x ← identifier
      return "." ++ x ++ (← dottedRest fuel)
    else return ""

def dottedName : Parser String := do
  let x ← identifier
  return x ++ (← dottedRest ((← size) + 1))

end Parser

end BeanDoc.Template
