import BeanDoc.Toml.Number
import BeanDoc.Toml.Quoted

/-! Configuration files: lines of keys and values, and headers of tables. -/

namespace BeanDoc.Toml

def isBareKey (c : Char) : Bool :=
  c.isAlphanum || c = '_' || c = '-'

def skipSpace (cs : List Char) : List Char :=
  cs.dropWhile isSpace

def skipComment (cs : List Char) : Option (List Char) :=
  let body := cs.takeWhile (· ≠ '\n')
  let body := if body.getLast? = some '\r' then body.dropLast else body
  if body.any isControl then none else some (cs.drop body.length)

def endLine (cs : List Char) : Option (List Char) := do
  let rest ← match skipSpace cs with
    | '#' :: rest => skipComment rest
    | rest => some rest
  match rest with
  | [] => some []
  | '\n' :: rest => some rest
  | '\r' :: '\n' :: rest => some rest
  | _ => none

def skipLines : (fuel : Nat) → List Char → Option (List Char)
  | 0, cs => some cs
  | fuel + 1, cs =>
    match skipSpace cs with
    | '#' :: rest => do skipLines fuel (← skipComment rest)
    | '\n' :: rest => skipLines fuel rest
    | '\r' :: '\n' :: rest => skipLines fuel rest
    | rest => some rest

def readKeyPart (cs : List Char) : Option (String × List Char) :=
  match skipSpace cs with
  | '"' :: cs => (readBasic cs).map fun (s, rest) => (String.ofList s, skipSpace rest)
  | '\'' :: cs => (readLiteral cs).map fun (s, rest) => (String.ofList s, skipSpace rest)
  | cs =>
    let part := cs.takeWhile isBareKey
    if part.isEmpty then none else some (String.ofList part, skipSpace (cs.dropWhile isBareKey))

/-- How deep lists and tables can be nested, and how many parts a key can have. -/
def nestingLimit : Nat := 79

def readKey : (limit : Nat) → List Char → Option (List String × List Char)
  | 0, _ => none
  | limit + 1, cs =>
    match readKeyPart cs with
    | some (part, '.' :: rest) =>
      (readKey limit rest).map fun (parts, rest) => (part :: parts, rest)
    | some (part, rest) => some ([part], rest)
    | none => none

def isWordChar (c : Char) : Bool :=
  !(isSpace c || c = '\n' || c = '\r' || c = ',' || c = ']' || c = '}' || c = '#')

def readWord (cs : List Char) : Option (Value × List Char) :=
  let (word, rest) := cs.span isWordChar
  let (word, rest) :=
    match rest with
    | ' ' :: c :: _ =>
      -- a date and a time may have a space between them
      if isDate word && c.isDigit then
        let (time, after) := (rest.drop 1).span isWordChar
        (word ++ ' ' :: time, after)
      else (word, rest)
    | _ => (word, rest)
  (ofWord word).map (·, rest)

mutual

/-- Reads a value in which lists and tables are nested so deep at most. The fuel bounds how long
they are. -/
def readValue : (fuel : Nat) → (depth : Nat) → List Char → Option (Value × List Char)
  | 0, _, _ => none
  | fuel + 1, depth, cs =>
    match skipSpace cs, depth with
    | '[' :: cs, depth + 1 => (readItems fuel depth cs).map fun (vs, rest) => (.array vs, rest)
    | '{' :: cs, depth + 1 =>
      (readTable fuel depth true [] cs).map fun (ms, rest) => (.table .inline ms, rest)
    | c :: cs, _ =>
      if c = '"' || c = '\'' then
        (readText (c :: cs)).map fun (s, rest) => (.string (String.ofList s), rest)
      else readWord (c :: cs)
    | [], _ => none

def readItems : (fuel : Nat) → (depth : Nat) → List Char → Option (List Value × List Char)
  | 0, _, _ => none
  | fuel + 1, depth, cs =>
    match skipLines cs.length cs with
    | none => none
    | some (']' :: rest) => some ([], rest)
    | some cs =>
      match readValue fuel depth cs with
      | none => none
      | some (v, rest) =>
        match skipLines rest.length rest with
        | some (',' :: rest) => (readItems fuel depth rest).map fun (vs, rest) => (v :: vs, rest)
        | some (']' :: rest) => some ([v], rest)
        | _ => none

def readTable : (fuel : Nat) → (depth : Nat) → (isFirst : Bool) → Members → List Char →
    Option (Members × List Char)
  | 0, _, _, _, _ => none
  | fuel + 1, depth, isFirst, ms, cs =>
    match isFirst, skipSpace cs with
    | true, '}' :: rest => some (ms, rest)
    | _, cs =>
      match readKey nestingLimit cs with
      | some (key, '=' :: rest) =>
        match readValue fuel depth rest with
        | none => none
        | some (v, rest) =>
          match Members.insert v key ms, skipSpace rest with
          | some ms, ',' :: rest => readTable fuel depth false ms rest
          | some ms, '}' :: rest => some (ms, rest)
          | _, _ => none
      | _ => none

end

/-- Reads the lines of a file. Keys are taken in the table of the last header. -/
def readLines : (fuel : Nat) → (table : List String) → Members → List Char → Option Members
  | 0, _, _, _ => none
  | fuel + 1, table, ms, cs =>
    match skipLines cs.length cs with
    | none => none
    | some [] => some ms
    | some ('[' :: '[' :: cs) =>
      match readKey nestingLimit cs with
      | some (key, ']' :: ']' :: rest) => do
        readLines fuel key (← ms.openNextTable key) (← endLine rest)
      | _ => none
    | some ('[' :: cs) =>
      match readKey nestingLimit cs with
      | some (key, ']' :: rest) => do
        readLines fuel key (← ms.openTable key) (← endLine rest)
      | _ => none
    | some cs =>
      match readKey nestingLimit cs with
      | some (key, '=' :: rest) => do
        let (v, rest) ← readValue (rest.length + 1) nestingLimit rest
        readLines fuel table (← ms.modifyAt (Members.insert v key) table) (← endLine rest)
      | _ => none

/-- The members of a file; `none` if it has no proper form. A mark of the byte order may stand at
its start. -/
def parse (text : String) : Option Members :=
  let cs := text.toList
  let cs := if cs.head? = some '\ufeff' then cs.tail else cs
  readLines (cs.length + 1) [] [] cs

end BeanDoc.Toml
