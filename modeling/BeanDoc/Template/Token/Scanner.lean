import BeanDoc.Template.Expansion
import BeanDoc.Template.Token.Escape
import BeanDoc.Template.Token.Number
import BeanDoc.Text.Blank
import BeanDoc.Text.Split

/-! Scanning a template into tokens. Outside blocks everything is text up to the next opening
delimiter. A minus sign next to a delimiter drops the white space on its other side, and nothing
inside `{% raw %}` and `{% endraw %}` counts as a delimiter. -/

namespace BeanDoc.Template

/-- Where the scanner is: in text, whose leading white space may have to go, or inside a block
with so many more opening than closing brackets. -/
inductive Mode where
  | text (trim : Bool)
  | inside (block : Block) (balance : Int)
  deriving DecidableEq, Repr

/-- The tokens of a template up to its end or to a fault. Most faults have a line of their own. -/
structure Scan where
  tokens : List Located
  fault : Option (FormFault × Option Nat)

inductive Step where
  | go (tokens : List Located) (mode : Mode) (line : Nat) (rest : List Char)
  | fail (tokens : List Located) (fault : FormFault) (line : Option Nat)

def lineAfter (line : Nat) (cs : List Char) : Nat :=
  line + cs.count '\n'

def cutAtBlock : List Char → List Char × Option (Block × List Char)
  | [] => ([], none)
  | [c] => ([c], none)
  | c :: d :: cs =>
    match if c = '{' then Block.ofOpener? d else none with
    | some b => ([], some (b, cs))
    | none =>
      let (lead, found) := cutAtBlock (d :: cs)
      (c :: lead, found)

def dropSign : List Char → Bool × List Char
  | '-' :: cs => (true, cs)
  | '+' :: cs => (false, cs)
  | cs => (false, cs)

def isBlockSpace (c : Char) : Bool :=
  c = ' ' || c = '\t' || c = '\n' || c = '\r' || c = '\x0c'

/-- Reads a tag that is only a name, up to its closing delimiter. The result says whether a minus
sign stands before the delimiter. -/
def bareTag? (name : List Char) (cs : List Char) : Option (Bool × List Char) := do
  let rest ← Text.after? name (cs.dropWhile isBlockSpace)
  let (strip, rest) := dropSign (rest.dropWhile isBlockSpace)
  let rest ← Text.after? ['%', '}'] rest
  return (strip, rest)

structure Raw where
  body : List Char
  /-- Whether white space at the end of the body goes. -/
  stripEnd : Bool
  /-- Whether white space behind the block goes. -/
  stripAfter : Bool
  rest : List Char

def readRaw : List Char → Option Raw
  | [] => none
  | [_] => none
  | c :: d :: cs =>
    if c = '{' && d = '%' then
      let (stripEnd, after) := dropSign cs
      match bareTag? ['e', 'n', 'd', 'r', 'a', 'w'] after with
      | some (stripAfter, rest) => some ⟨[], stripEnd, stripAfter, rest⟩
      | none => (readRaw cs).map fun r => { r with body := c :: d :: r.body }
    else (readRaw (d :: cs)).map fun r => { r with body := c :: r.body }

def openBlock (lead : List Located) (line : Nat) (block : Block) (cs : List Char) : Step :=
  let (_, inner) := dropSign cs
  match block with
  | .output => .go (lead ++ [⟨.outputStart, line⟩]) (.inside .output 0) line inner
  | .comment =>
    match Text.cut? ['#', '}'] inner with
    | none => .fail lead .endOfComment (some (lineAfter line inner))
    | some (body, rest) =>
      .go lead (.text (body.getLast? == some '-')) (lineAfter line body) rest
  | .statement =>
    match bareTag? ['r', 'a', 'w'] inner with
    | none => .go (lead ++ [⟨.blockStart, line⟩]) (.inside .statement 0) line inner
    | some (strip, rest) =>
      let start := lineAfter line (inner.take (inner.length - rest.length))
      match readRaw rest with
      | none => .fail lead .endOfRaw (some (lineAfter start rest))
      | some raw =>
        let body := if strip then Text.trimStart raw.body else raw.body
        let body := if raw.stripEnd then Text.trimEnd body else body
        .go (lead ++ [⟨.data body, start⟩]) (.text raw.stripAfter)
          (lineAfter start (rest.take (rest.length - raw.rest.length))) raw.rest

def dataTokens (line : Nat) (text : List Char) : List Located :=
  if text.isEmpty then [] else [⟨.data text, line⟩]

def stepText (trim : Bool) (line : Nat) (cs : List Char) : Step :=
  let gone := if trim then cs.takeWhile Text.isBlank else []
  let cs := if trim then cs.dropWhile Text.isBlank else cs
  let line := lineAfter line gone
  match cutAtBlock cs with
  | (lead, none) => .go (dataTokens line lead) (.text false) (lineAfter line lead) []
  | (lead, some (block, rest)) =>
    let text := if (dropSign rest).1 then Text.trimEnd lead else lead
    openBlock (dataTokens line text) (lineAfter line lead) block rest

def closeBlock? (block : Block) (cs : List Char) : Option (Bool × List Char) :=
  let close := [block.closer, '}']
  match cs with
  | '-' :: rest => (Text.after? close rest).map (true, ·)
  | '+' :: rest => (Text.after? close rest).map (false, ·)
  | _ => (Text.after? close cs).map (false, ·)

def longMarks : List (Char × Char) :=
  [('/', '/'), ('*', '*'), ('=', '='), ('!', '='), ('>', '='), ('<', '=')]

def shortMarks : List Char :=
  ['+', '-', '*', '/', '%', '.', ',', ':', '~', '|', '=', '>', '<', '(', ')', '[', ']', '{', '}']

def mark? : List Char → Option (List Char × List Char)
  | [] => none
  | [c] => if shortMarks.contains c then some ([c], []) else none
  | c :: d :: cs =>
    if longMarks.contains (c, d) then some ([c, d], cs)
    else if shortMarks.contains c then some ([c], d :: cs)
    else none

def balanceOf : List Char → Int
  | ['('] | ['['] | ['{'] => 1
  | [')'] | [']'] | ['}'] => -1
  | _ => 0

/-- The content of a string literal behind its opening quote, with escapes as they are written, and
what follows the closing quote. -/
def quotedChars (quote : Char) : List Char → Option (List Char × List Char)
  | [] => none
  | '\\' :: c :: cs => (quotedChars quote cs).map fun (body, rest) => ('\\' :: c :: body, rest)
  | c :: cs =>
    if c = quote then some ([], cs)
    else (quotedChars quote cs).map fun (body, rest) => (c :: body, rest)

def stepToken (block : Block) (balance : Int) (line : Nat) (c : Char) (cs : List Char) : Step :=
  let go (token : Token) (delta : Int) (after : Nat) (rest : List Char) : Step :=
    .go [⟨token, line⟩] (.inside block (balance + delta)) after rest
  match mark? (c :: cs) with
  | some (m, rest) => go (.mark (String.ofList m)) (balanceOf m) line rest
  | none =>
    if c = '\'' || c = '"' then
      match quotedChars c cs with
      | none => .fail [] .endOfString (some (lineAfter line cs))
      | some (body, rest) =>
        match unescape none body with
        | none => .fail [] .badEscape none
        | some text =>
          go (.text (String.ofList text) (body.contains '\\')) 0 (lineAfter line body) rest
    else if c.isDigit then
      match readNumber (c :: cs) with
      | .error f => .fail [] f (some line)
      | .ok (token, rest) => go token 0 line rest
    else if isIdentStart c then
      go (.ident (String.ofList (c :: cs.takeWhile isIdentChar))) 0 line
        (cs.dropWhile isIdentChar)
    else .fail [] .unexpectedCharacter (some line)

def closeToken : Block → Token
  | .output => .outputEnd
  | _ => .blockEnd

def stepInside (block : Block) (balance : Int) (line : Nat) (cs : List Char) : Step :=
  let line := lineAfter line (cs.takeWhile isBlockSpace)
  match cs.dropWhile isBlockSpace with
  | [] => .go [] (.inside block balance) line []
  | c :: cs =>
    -- a delimiter closes the block only while no bracket is open
    match if balance = 0 then closeBlock? block (c :: cs) else none with
    | some (strip, rest) => .go [⟨closeToken block, line⟩] (.text strip) line rest
    | none => stepToken block balance line c cs

def step (mode : Mode) (line : Nat) (cs : List Char) : Step :=
  match mode with
  | .text trim => stepText trim line cs
  | .inside block balance => stepInside block balance line cs

/-- Scans what is left. Each step takes at least one character, so that there are no more steps
than characters. -/
def scanFrom : (fuel : Nat) → Mode → Nat → List Char → Scan
  | 0, _, _, _ => ⟨[], none⟩
  | _ + 1, _, _, [] => ⟨[], none⟩
  | fuel + 1, mode, line, c :: cs =>
    match step mode line (c :: cs) with
    | .fail tokens fault at_ => ⟨tokens, some (fault, at_)⟩
    | .go tokens mode line rest =>
      let more := scanFrom fuel mode line rest
      ⟨tokens ++ more.tokens, more.fault⟩

def tokens (source : List Char) : Scan :=
  scanFrom source.length (.text false) 1 source

end BeanDoc.Template
