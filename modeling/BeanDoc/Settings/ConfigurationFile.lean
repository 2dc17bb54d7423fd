import BeanDoc.Files.Content
import BeanDoc.Settings.Source
import BeanDoc.Toml.Reader

/-! The configuration file: where it is looked for, and what it supplies. A file may extend another
one, whose values count where it has none itself. -/

namespace BeanDoc.ConfigurationFile

def dottedName : String :=
  ".gendoc.toml"

def nestedName : String :=
  "gendoc/gendoc.toml"

def namesBelow (directory : String) : List String :=
  [Path.join directory nestedName, Path.join directory dottedName]

def systemDirectories (list : Option String) : List String :=
  let named := (list.map fun s => (Text.pieces ':' s.toList).map String.ofList).getD []
  let named := named.filter (!·.isEmpty)
  if named.isEmpty then ["/etc/xdg"] else named

def candidates (variableText? : String → Option String) : List String :=
  let named := (variableText? "GENDOC_CONFIG_PATH").toList.filter (!·.isEmpty)
  let own := (variableText? "XDG_CONFIG_HOME").toList.flatMap namesBelow
  let system := (systemDirectories (variableText? "XDG_CONFIG_DIRS")).flatMap namesBelow
  let home := (variableText? "HOME").toList.flatMap fun home =>
    namesBelow (Path.join home ".config") ++ [Path.join home dottedName]
  named ++ own ++ system ++ home ++ [dottedName]

def isOtherFormat (path : String) : Bool :=
  match Path.extension? path with
  | some e => ["json", "json5", "yaml", "yml"].contains (e.map Char.toLower)
  | none => false

/-- The file that a file extends: none, or its path from the directory of the extending one. The
outer `none` is for what is no path. -/
def base? (path : String) (ms : Toml.Members) : Option (Option String) :=
  match ms.lookup "extends" with
  | none => some none
  | some (.string s) => if s.isEmpty then none else some (some (Path.join (Path.parent path) s))
  | some _ => none

def members? (t : Files) (path : String) : Option Toml.Members :=
  if isOtherFormat path then none
  else
    match t.readTextAt path with
    | .error _ => none
    | .ok text => Toml.parse text

/-- The members of a file and of those that it extends, which come first. The fuel bounds how many
these are. -/
def chain? (t : Files) : (fuel : Nat) → (path : String) → Option Toml.Members
  | 0, _ => none
  | fuel + 1, path =>
    match members? t path with
    | none => none
    | some ms =>
      match base? path ms with
      | none => none
      | some none => some ms
      | some (some base) => (chain? t fuel base).map (· ++ ms)

def valueOf : Toml.Value → SourceValue
  | .bool b => .bool b
  | .int i => .signed i
  | .float x => .float x
  | .string s => .text s
  | .date => .map
  | .array _ => .list
  | .tables _ => .list
  | .table _ _ => .map

def supplied? (t : Files) (path : String) : Option (List (String × SourceValue)) :=
  -- a chain that is longer than there are files goes round
  (chain? t (t.nodes.length + 1) path).map fun ms => ms.map fun (key, v) => (key, valueOf v)

inductive Fault where
  | missing (path : String)
  | malformed (path : String)
  deriving DecidableEq, Repr

def Fault.message : Fault → String
  | missing path =>
    "Configuration file error in '" ++ path ++ "': required configuration file not found"
  | malformed path => "Configuration file error in '" ++ path ++ "'"

/-- What the first usable file supplies. If there are files and none is usable, the first is at
fault. -/
def firstOf (t : Files) (paths : List String) : Except Fault (List (String × SourceValue)) :=
  let paths := paths.filter t.isFileAt
  match paths, paths.findSome? (supplied? t) with
  | _, some values => .ok values
  | [], none => .ok []
  | path :: _, none => .error (.malformed path)

def load (t : Files) (required : Option String) (candidates : List String) :
    Except Fault (List (String × SourceValue)) :=
  match required with
  | none => firstOf t candidates
  | some path =>
    if !t.isFileAt path then .error (.missing path)
    else
      match supplied? t path with
      | none => .error (.malformed path)
      | some values => .ok values

end BeanDoc.ConfigurationFile
