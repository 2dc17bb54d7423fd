import BeanDoc.DocComment.Block

/-! The layout of a comment block. A block without a line break stays on one line; any other gets
its markers on lines of their own and ` * ` in front of each line between them. -/

namespace BeanDoc.DocComment

def dropBlankEnds (ls : List (List Char)) : List (List Char) :=
  ((ls.dropWhile Text.allBlank).reverse.dropWhile Text.allBlank).reverse

def decorate (line : List Char) : List Char :=
  if Text.allBlank line then [' ', '*', '\n'] else [' ', '*', ' '] ++ line ++ ['\n']

def layoutBody (inner : List Char) : List Char :=
  match dropBlankEnds ((contentLines inner).map Text.trimEnd) with
  | [] => ['/', '*', '*', ' ', '*', '/']
  | first :: more =>
    if inner.contains '\n' then
      ['/', '*', '*', '\n'] ++ (first :: more).flatMap decorate ++ [' ', '*', '/']
    else ['/', '*', '*', ' '] ++ Text.trim first ++ [' ', '*', '/']

/-- Lays out a comment block. A text that is none stays as it is. -/
def layout (text : String) : String :=
  match body text.toList with
  | .error _ => text
  | .ok inner => String.ofList (layoutBody inner)

end BeanDoc.DocComment
