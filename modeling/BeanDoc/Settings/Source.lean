import BeanDoc.Decimal.Shortest
import BeanDoc.Settings.Basic
import BeanDoc.Text.Quoted

/-! Values that configuration files and environment variables supply. They are put together first;
only then it shows whether a value has the type of its setting. -/

namespace BeanDoc

/-- A value as a source supplies it. What is in lists and maps does not matter. -/
inductive SourceValue where
  | bool (b : Bool)
  | unsigned (n : Nat)
  | signed (i : Int)
  | float (x : Float)
  | text (s : String)
  | list
  | map

namespace SourceValue

/-- A double without exponent; a whole number has no point. -/
def printFloat (x : Float) : String :=
  let text := (Decimal.FloatFormat.render {} x).toList
  String.ofList ((Text.before? ['.', '0'] text).getD text)

def describe : SourceValue → String
  | bool b => "bool " ++ if b then "true" else "false"
  | unsigned n => "unsigned int `" ++ toString n ++ "`"
  | signed i => "signed int `" ++ toString i ++ "`"
  | float x => "float `" ++ printFloat x ++ "`"
  | text s => "string " ++ Text.quoted s
  | list => "sequence"
  | map => "map"

end SourceValue

inductive Source where
  | file
  | environment
  deriving DecidableEq, Repr

namespace Source

def keyName (key : String) : Source → String
  | file => "default." ++ key
  | environment => key.map Char.toUpper

def title : Source → String
  | file => "TOML source string"
  | environment => "`GENDOC_` environment variable(s)"

end Source

structure SourceFault where
  key : String
  source : Source
  found : SourceValue
  expected : String

def SourceFault.message (f : SourceFault) : String :=
  "Failed to merge CLI with configuration: invalid type: found " ++ f.found.describe ++
    ", expected " ++ f.expected ++ " for key " ++ Text.quoted (f.source.keyName f.key) ++
    " in " ++ f.source.title

abbrev Supplied := List (String × Source × SourceValue)

namespace Supplied

open Json

def ofSource (source : Source) (values : List (String × SourceValue)) : Supplied :=
  values.map fun (key, v) => (key, source, v)

def keys : List (String × Bool) := [
  ("category", false), ("class_file", false), ("database_url", false), ("dry_run", true),
  ("getter_template_file", false), ("methods", false), ("migrate_db", true),
  ("output_file", false), ("overwrite", true), ("project_name", false),
  ("setter_template_file", false)]

/-- The value of a setting, of a text or a flag, if a source supplies it. Of several values the last
counts. -/
def setting (s : Supplied) (key : String) (isFlag : Bool) : Except SourceFault (Option Value) :=
  match s.reverse.lookup key, isFlag with
  | none, _ => .ok none
  | some (_, .text text), false => .ok (some (.string text))
  | some (_, .bool b), true => .ok (some (.bool b))
  | some (source, found), false => .error ⟨key, source, found, "a string"⟩
  | some (source, found), true => .error ⟨key, source, found, "a boolean"⟩

def settings (s : Supplied) : List (String × Bool) → Except SourceFault (List (String × Value))
  | [] => .ok []
  | (key, isFlag) :: rest =>
    match s.setting key isFlag with
    | .error f => .error f
    | .ok v =>
      match s.settings rest with
      | .error f => .error f
      | .ok ms => .ok ((v.map fun v => (key, v)).toList ++ ms)

def toJson (s : Supplied) (isGiven : String → Bool) : Except SourceFault Value :=
  (s.settings (keys.filter fun (key, _) => !isGiven key)).map .object

end Supplied

end BeanDoc
