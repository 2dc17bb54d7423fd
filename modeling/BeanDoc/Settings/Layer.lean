import BeanDoc.Settings.Basic

/-! Settings come in layers of JSON values. A later layer wins, key by key, whatever its source is.
-/

namespace BeanDoc

open Json

inductive LayerSource where
  | defaults
  | file
  | environment
  | arguments
  deriving DecidableEq, Repr

def LayerSource.name : LayerSource → String
  | defaults => "defaults"
  | file => "file"
  | environment => "environment"
  | arguments => "CLI"

structure Layer where
  source : LayerSource
  values : Value

inductive LayerFault where
  | notObject (source : LayerSource) (found : Value)
  | settings (cause : Cause)

namespace LayerFault

def describe : Value → String
  | .array _ => "an array"
  | .string _ => "a string"
  | .int _ => "a number"
  | .float _ => "a number"
  | .bool _ => "a boolean"
  | .null => "null"
  | .object _ => "an object"

def message : LayerFault → String
  | notObject source found =>
    "Failed to merge CLI with configuration: Declarative merge for GendocConfig expects JSON " ++
      "objects but the " ++ source.name ++ " layer supplied " ++ describe found ++
      ". Non-object layers would overwrite accumulated state."
  | settings cause =>
    "Failed to gather configuration: JSON error: " ++ cause.message ++ " at line 0, column 0"

end LayerFault

namespace Layer

def override (old new : List (String × Value)) : List (String × Value) :=
  new.foldl (fun ms (name, v) => insertMember name v ms) old

def merge : (merged : List (String × Value)) → List Layer →
    Except LayerFault (List (String × Value))
  | merged, [] => .ok merged
  | merged, l :: ls =>
    match l.values with
    | .object ms => merge (override merged ms) ls
    | found => .error (.notObject l.source found)

end Layer

def Settings.ofLayers (ls : List Layer) : Except LayerFault Settings :=
  match Layer.merge [] ls with
  | .error f => .error f
  | .ok ms =>
    match Settings.decoder.ofValue (if ms.isEmpty then .null else .object ms) with
    | .error cause => .error (.settings cause)
    | .ok s => .ok s

end BeanDoc
