import BeanDoc.ClassFile
import BeanDoc.Files.Content

/-! Reading and writing class files. -/

namespace BeanDoc

inductive ClassFileFault where
  | access (path : String) (fault : FileFault)
  | parse (path : String) (fault : Json.Fault)

def ClassFileFault.message : ClassFileFault → String
  | access path f => "failed to access class file '" ++ path ++ "': " ++ f.message
  | parse path f => "failed to parse class file '" ++ path ++ "': " ++ f.message

namespace ClassModel

/-- The directory and the name of a class file. Where the directory is at fault, its path is
named. -/
def locate (t : Files) (path : String) :
    Except ClassFileFault (List String × String) :=
  match Path.fileName? path with
  | none => .error (.access path .noFileName)
  | some name =>
    match t.openDirectory (Path.parent path) with
    | .error f => .error (.access (Path.parent path) f)
    | .ok directory => .ok (directory, name)

def read (t : Files) (path : String) : Except ClassFileFault ClassModel :=
  match locate t path with
  | .error f => .error f
  | .ok (directory, name) =>
    match t.readTextIn directory name with
    | .error f => .error (.access path f)
    | .ok content =>
      match ClassModel.parse content with
      | .error f => .error (.parse path f)
      | .ok c => .ok c

def write (c : ClassModel) (t : Files) (path : String) :
    Except ClassFileFault Files :=
  match locate t path with
  | .error f => .error f
  | .ok (directory, name) =>
    match t.writeIn directory name (.text c.print) with
    | .error f => .error (.access path f)
    | .ok t => .ok t

end ClassModel

end BeanDoc
