import BeanDoc.Json.Fault

/-! The rest of a JSON text and the place where it starts. -/

namespace BeanDoc.Json

def Place.after (p : Place) (c : Char) : Place :=
  if c = '\n' then ⟨p.line + 1, 0⟩ else ⟨p.line, p.column + c.utf8Size⟩

structure Input where
  rest : List Char
  place : Place

abbrev Reader (α : Type) :=
  Input → Except Fault (α × Input)

namespace Input

def ofText (text : String) : Input :=
  ⟨text.toList, ⟨1, 0⟩⟩

def skip (inp : Input) : Input :=
  match inp.rest with
  | [] => inp
  | c :: cs => ⟨cs, inp.place.after c⟩

def isSpace (c : Char) : Bool :=
  c == ' ' || c == '\n' || c == '\t' || c == '\r'

def dropWhile (p : Char → Bool) (inp : Input) : Input :=
  let lead := inp.rest.takeWhile p
  ⟨inp.rest.dropWhile p, lead.foldl Place.after inp.place⟩

def skipSpace (inp : Input) : Input :=
  inp.dropWhile isSpace

/-- The place behind the next byte, or behind the end of the text. -/
def nextPlace (inp : Input) : Place :=
  match inp.rest with
  | [] => inp.place
  | c :: _ => if c = '\n' then inp.place.after c else ⟨inp.place.line, inp.place.column + 1⟩

/-- The place behind the given number of bytes from another place, and the input behind them if they
are there and hold whole characters. -/
def bytesFrom : List Char → Nat → Place → Place × Option Input
  | cs, 0, p => (p, some ⟨cs, p⟩)
  | [], _ + 1, p => (p, none)
  | c :: cs, n + 1, p =>
    if c.utf8Size ≤ n + 1 then bytesFrom cs (n + 1 - c.utf8Size) (p.after c)
    else (⟨p.line, p.column + n + 1⟩, none)

def bytes (n : Nat) (inp : Input) : Place × Option Input :=
  bytesFrom inp.rest n inp.place

def size (inp : Input) : Nat :=
  inp.rest.foldl (fun n c => n + c.utf8Size) 0

def lastPlace (inp : Input) : Place :=
  inp.rest.foldl Place.after inp.place

def faultNext (inp : Input) (f : TextFault) : Fault :=
  ⟨.text f, some inp.nextPlace⟩

def faultHere (inp : Input) (f : TextFault) : Fault :=
  ⟨.text f, some inp.place⟩

end Input

end BeanDoc.Json
