import BeanDoc.DocComment.Block
import BeanDoc.Text.Letter

/-! Reading documentation comments. The text before the first line that starts with `@` is the
description; each such line starts a block tag, and the lines after it continue the tag's text. -/

namespace BeanDoc.DocComment

/-- Whether every `{@` has a `}` somewhere behind it. `inside` says that a `{@` is still open. -/
def inlineTagsClosed : (inside : Bool) → List Char → Bool
  | inside, [] => !inside
  | true, c :: cs => inlineTagsClosed (c != '}') cs
  | false, '{' :: '@' :: cs => inlineTagsClosed true cs
  | false, _ :: cs => inlineTagsClosed false cs

inductive Line where
  | text (content : List Char)
  | tag (name : List Char) (argument : Option (List Char)) (content : List Char)
  deriving DecidableEq, Repr

/-- The tags that are about something: the first word after the name says what. -/
def takesArgument (name : List Char) : Bool :=
  [['p', 'a', 'r', 'a', 'm'], ['t', 'h', 'r', 'o', 'w', 's'],
    ['e', 'x', 'c', 'e', 'p', 't', 'i', 'o', 'n']].contains name

def needsArgument (name : List Char) : Bool :=
  name == ['p', 'a', 'r', 'a', 'm']

def isTagName (name : List Char) : Bool :=
  !name.isEmpty && name.all Text.isAlphanumeric

def readTag (line : Nat) (source : List Char) : Except Fault Line :=
  let (name, remainder) := Text.cutWhere Text.isBlank source
  if !isTagName name then .error (.namelessTag line)
  else
    let remainder := Text.trim remainder
    if !takesArgument name then .ok (.tag name none remainder)
    else
      let (argument, text) := Text.cutWhere Text.isBlank remainder
      if !argument.isEmpty then .ok (.tag name (some argument) (Text.trim text))
      else if needsArgument name then .error (.namelessParameter line)
      else .ok (.tag name none (Text.trim text))

def readLine (number : Nat) (line : List Char) : Except Fault Line :=
  match Text.trim line with
  | '@' :: source => readTag number source
  | content => .ok (.text content)

def readLines (number : Nat) : List (List Char) → Except Fault (List Line)
  | [] => .ok []
  | l :: ls => do
    let line ← readLine number l
    let rest ← readLines (number + 1) ls
    return line :: rest

def joinLines (ls : List (List Char)) : List Char :=
  Text.trim (Text.join ['\n'] ls)

def gather : List Line → List (List Char) × List BlockTag
  | [] => ([], [])
  | .text content :: ls =>
    let (lead, tags) := gather ls
    (content :: lead, tags)
  | .tag name argument content :: ls =>
    let (more, tags) := gather ls
    ([], ⟨String.ofList name, argument.map String.ofList,
      String.ofList (joinLines (content :: more))⟩ :: tags)

def ofLines (ls : List Line) : DocComment :=
  let (lead, tags) := gather ls
  ⟨String.ofList (joinLines lead), tags⟩

def parse (text : String) : Except Fault DocComment := do
  let inner ← body text.toList
  if Text.occurs ['*', '/'] inner then throw .earlyTerminator
  if !inlineTagsClosed false inner then throw .unclosedInlineTag
  return ofLines (← readLines 1 (contentLines inner))

end BeanDoc.DocComment
