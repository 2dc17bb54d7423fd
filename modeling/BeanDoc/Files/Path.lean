import BeanDoc.Text.Split

/-! Paths as texts: their last component, and what stands before it. Separators and single dots at
the end of a path do not count. -/

namespace BeanDoc.Path

/-- What is left of a reversed path without separators and single dots at its end. A path that is
only a dot, or only separators, keeps its first character. -/
def trimReversed : List Char → List Char
  | ['/'] => ['/']
  | '/' :: cs => trimReversed cs
  | '.' :: '/' :: cs => trimReversed ('/' :: cs)
  | cs => cs

def trimTail (path : List Char) : List Char :=
  (trimReversed path.reverse).reverse

def lastPart (path : List Char) : List Char :=
  (path.reverse.takeWhile (· ≠ '/')).reverse

def leadPart (path : List Char) : List Char :=
  (path.reverse.dropWhile (· ≠ '/')).reverse

/-- The name of the file that a path leads to. A path that ends in the root or a dotted component
has none. -/
def fileName? (path : String) : Option String :=
  match lastPart (trimTail path.toList) with
  | [] => none
  | ['.'] => none
  | ['.', '.'] => none
  | name => some (String.ofList name)

def parent (path : String) : String :=
  match trimTail (leadPart (trimTail path.toList)) with
  | [] => "."
  | lead => String.ofList lead

def components (path : String) : List String :=
  ((Text.pieces '/' path.toList).map String.ofList).filter fun c => c ≠ "" && c ≠ "."

def isAbsolute (path : String) : Bool :=
  path.toList.head? == some '/'

def join (directory path : String) : String :=
  if isAbsolute path || directory.isEmpty then path
  else if directory.toList.getLast? = some '/' then directory ++ path
  else directory ++ "/" ++ path

/-- What stands behind the last dot of the file name. A dot at its start does not count. -/
def extension? (path : String) : Option String :=
  match fileName? path with
  | none => none
  | some name =>
    let tail := name.toList.reverse.takeWhile (· ≠ '.')
    if name.length ≤ tail.length + 1 then none else some (String.ofList tail.reverse)

def isTooLong (component : String) : Bool :=
  component.utf8ByteSize > 255

/-- A path has fewer bytes. -/
def lengthLimit : Nat := 4096

def hasNul (path : String) : Bool :=
  path.toList.contains '\x00'

end BeanDoc.Path
