/-! Documentation comments: a description, and block tags such as `@param name text`. -/

namespace BeanDoc

structure BlockTag where
  name : String
  /-- What the tag is about: the parameter of `@param`, the exception of `@throws`. -/
  argument : Option String
  text : String
  deriving DecidableEq, Repr

structure DocComment where
  description : String
  tags : List BlockTag
  deriving DecidableEq, Repr

namespace DocComment

def tag? (c : DocComment) (name : String) : Option BlockTag :=
  c.tags.find? (·.name == name)

/-- Why a text is no documentation comment. Lines are counted from one. -/
inductive Fault where
  | missingOpening
  | unterminated
  | earlyTerminator
  | namelessTag (line : Nat)
  | namelessParameter (line : Nat)
  | unclosedInlineTag
  deriving DecidableEq, Repr

def Fault.message : Fault → String
  | missingOpening => "documentation comment must start with '/**'"
  | unterminated => "documentation comment must end with '*/'"
  | earlyTerminator => "documentation comment contains '*/' before its end"
  | namelessTag line => "block tag on line " ++ toString line ++ " has no name"
  | namelessParameter line =>
    "@param tag on line " ++ toString line ++ " does not name a parameter"
  | unclosedInlineTag => "inline tag is not closed with '\x7d'"

end DocComment

end BeanDoc
