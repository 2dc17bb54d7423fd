import BeanDoc.Database
import BeanDoc.Files.Tree

/-! What files hold: text, a database, or other bytes. An empty file is also a database, a new one,
and so is a file of a single byte. -/

namespace BeanDoc

inductive FileContent where
  | text (s : String)
  | database (d : Database)
  | binary
  deriving DecidableEq, Repr

namespace FileContent

def toText : FileContent → Except FileFault String
  | text s => .ok s
  | database _ => .error .notText
  | binary => .error .notText

def toDatabase : FileContent → Except DatabaseFault Database
  | text s => if s.utf8ByteSize ≤ 1 then .ok {} else .error .notDatabase
  | database d => .ok d
  | binary => .error .notDatabase

end FileContent

abbrev Files := FileTree FileContent

def FileTree.readTextIn (t : Files) (directory : List String) (name : String) :
    Except FileFault String :=
  match t.readIn directory name with
  | .error f => .error f
  | .ok content => content.toText

/-- The text of the file at a path of which every component counts: a path that ends in a separator
or in dots leads to no file. -/
def FileTree.readTextAt (t : Files) (path : String) : Except FileFault String :=
  let name := String.ofList (Path.lastPart path.toList)
  if name = "" || name = "." || name = ".." then .error .noFileName
  else
    match t.openDirectory (String.ofList (Path.leadPart path.toList)) with
    | .error f => .error f
    | .ok directory => t.readTextIn directory name

def FileTree.isFileAt (t : Files) (path : String) : Bool :=
  match t.readTextAt path with
  | .ok _ => true
  | .error f => f = .notText

def FileTree.isDirectoryAt (t : Files) (path : String) : Bool :=
  match t.openDirectory path with
  | .ok _ => !path.isEmpty
  | .error _ => false

def FileTree.readText (t : Files) (path : String) : Except FileFault String :=
  match Path.fileName? path with
  | none => .error .noFileName
  | some name =>
    match t.openDirectory (Path.parent path) with
    | .error f => .error f
    | .ok directory => t.readTextIn directory name

end BeanDoc
