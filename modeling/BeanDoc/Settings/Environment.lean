import BeanDoc.Decimal.Reader
import BeanDoc.Decimal.Word
import BeanDoc.Settings.Source
import BeanDoc.Toml.Quoted

/-! Settings in environment variables. The text of a variable stands for a truth value, a number, a
list or a map if it looks like one, and else for itself. White space around it does not count. -/

namespace BeanDoc.Environment

def isSeparator (c : Char) : Bool :=
  c = ',' || c = '{' || c = '}' || c = '[' || c = ']'

def isSpace (c : Char) : Bool :=
  c.isWhitespace || c = '\x0c'

def skipSpace (cs : List Char) : List Char :=
  cs.dropWhile isSpace

def integer? (word : List Char) : Option SourceValue :=
  match Decimal.int? word with
  | none => none
  | some i =>
    if word.head? = some '-' then
      if Decimal.fitsSigned 64 i then some (.signed i) else none
    else if i.toNat < Decimal.wordCount 64 then some (.unsigned i.toNat)
    else none

/-- A word: a number if it reads as one. A double has a point. -/
def ofWord (word : List Char) : SourceValue :=
  let word := Text.trim word
  let double := if word.contains '.' then (Decimal.float? word).map SourceValue.float else none
  (double.or (integer? word)).getD (.text (String.ofList word))

def leadBytes : (bytes : Nat) → List Char → List Char
  | _, [] => []
  | bytes, c :: cs => if c.utf8Size ≤ bytes then c :: leadBytes (bytes - c.utf8Size) cs else []

def readQuoted (cs : List Char) : Option (List Char × List Char) :=
  let lead := cs.takeWhile fun c => c ≠ '\\' && c ≠ '"'
  (Toml.readBasic cs).map fun (text, rest) =>
    -- of what stands in front of the first escape as many bytes are left as there are characters
    if cs[lead.length]? = some '\\' then
      (leadBytes lead.length lead ++ text.drop lead.length, rest)
    else (text, rest)

def readKey (cs : List Char) : Option (List Char) :=
  let rest : Option (List Char) :=
    match skipSpace cs with
    | '"' :: cs => (Toml.readBasic cs).map fun (_, rest) => rest
    | cs =>
      let isKeyChar := fun (c : Char) => c.isAlphanum || c = '_' || c = '-'
      if (cs.takeWhile isKeyChar).isEmpty then none else some (cs.dropWhile isKeyChar)
  match rest.map skipSpace with
  | some ('=' :: rest) => some rest
  | _ => none

mutual

/-- Reads a value; the fuel bounds how deep lists and maps go and how long they are. -/
def readValue : (fuel : Nat) → List Char → Option (SourceValue × List Char)
  | 0, _ => none
  | fuel + 1, cs =>
    let cs := skipSpace cs
    let found :=
      match Text.after? "true".toList cs, Text.after? "false".toList cs, cs with
      | some rest, _, _ => some (SourceValue.bool true, rest)
      | _, some rest, _ => some (.bool false, rest)
      | _, _, '[' :: rest => (readItems fuel false ']' rest).map (.list, ·)
      | _, _, '{' :: rest => (readItems fuel true '}' rest).map (.map, ·)
      | _, _, '"' :: rest =>
        (readQuoted rest).map fun (s, rest) => (.text (String.ofList s), rest)
      | _, _, '\'' :: c :: '\'' :: rest => some (.text (String.ofList [c]), rest)
      | _, _, '\'' :: _ => none
      | _, _, cs => some (ofWord (cs.takeWhile (!isSeparator ·)), cs.dropWhile (!isSeparator ·))
    found.map fun (v, rest) => (v, skipSpace rest)

def readItems : (fuel : Nat) → (keyed : Bool) → (close : Char) → List Char → Option (List Char)
  | 0, _, _, _ => none
  | fuel + 1, keyed, close, cs =>
    match cs with
    | [] => none
    | c :: rest =>
      if c = close then some rest
      else
        let item := if keyed then readKey (c :: rest) else some (c :: rest)
        match item.bind (readValue fuel) with
        | some (_, ',' :: rest) => readItems fuel keyed close rest
        | some (_, d :: rest) => if d = close then some rest else none
        | _ => none

end

def valueOf (s : String) : SourceValue :=
  let cs := Text.trim s.toList
  let isEnclosed := match cs with | c :: _ => "[\x7b\"'".toList.contains c | [] => false
  -- a text with commas is a list of its parts, unless it starts with a bracket or a quote
  if cs.contains ',' && !isEnclosed then .list
  else
    match readValue (cs.length + 1) cs with
    | some (v, []) => v
    | _ => .text (String.ofList cs)

def lead : String :=
  "GENDOC_"

def keyParts : List Char → List (List Char)
  | [] => [[]]
  | '_' :: '_' :: cs => [] :: keyParts cs
  | '.' :: cs => [] :: keyParts cs
  | c :: cs =>
    match keyParts cs with
    | [] => [[c]]
    | p :: ps => (c :: p) :: ps

/-- The key that a variable sets, in parts. The case of letters in its name does not matter. A
variable with an empty part in its key sets nothing. -/
def keyOf? (name : String) : Option (List String) :=
  match Text.after? lead.toList ((Text.trim name.toList).map Char.toUpper) with
  | none => none
  | some rest =>
    let parts := keyParts (Text.trim rest)
    if parts.any List.isEmpty then none
    else some (parts.map fun p => String.ofList (p.map Char.toLower))

def supplied? (name text : String) : Option (String × SourceValue) :=
  match keyOf? name with
  | none => none
  | some [] => none
  | some [key] => some (key, valueOf text)
  | some (key :: _ :: _) => some (key, .map)

def supplied (environment : List (String × String)) : List (String × SourceValue) :=
  environment.filterMap fun (name, text) => supplied? name text

end BeanDoc.Environment
