/-! The tokens of a template: plain text, the delimiters of blocks, and what stands inside them. -/

namespace BeanDoc.Template

inductive Token where
  | data (text : List Char)
  | outputStart
  | outputEnd
  | blockStart
  | blockEnd
  | ident (name : String)
  /-- A string literal; `escaped` says that there are escapes in it. -/
  | text (s : String) (escaped : Bool)
  | int (n : Nat)
  | float (x : Float)
  /-- An operator or a bracket. -/
  | mark (s : String)

namespace Token

def describe : Token → String
  | data _ => "template data"
  | outputStart => "start of variable block"
  | outputEnd => "end of variable block"
  | blockStart => "start of block"
  | blockEnd => "end of block"
  | ident _ => "identifier"
  | text .. => "string"
  | int _ => "integer"
  | float _ => "float"
  | mark s => "`" ++ s ++ "`"

def isIdent (name : String) : Token → Bool
  | ident n => n == name
  | _ => false

def isMark (s : String) : Token → Bool
  | mark m => m == s
  | _ => false

def isBlockEnd : Token → Bool
  | blockEnd => true
  | _ => false

def isOutputEnd : Token → Bool
  | outputEnd => true
  | _ => false

end Token

def isIdentStart (c : Char) : Bool :=
  c.isAlpha || c = '_'

def isIdentChar (c : Char) : Bool :=
  c.isAlphanum || c = '_'

structure Located where
  token : Token
  line : Nat

end BeanDoc.Template
