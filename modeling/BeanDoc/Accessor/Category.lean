import BeanDoc.Accessor.Kind

/-! Categories of accessors: what a run works on, and the methods of a class that belong to it. -/

namespace BeanDoc

namespace Accessor

inductive Category where
  | getters
  | setters
  | accessors
  deriving DecidableEq, Repr

structure UnsupportedCategory where
  text : String
  deriving DecidableEq, Repr

def UnsupportedCategory.message (e : UnsupportedCategory) : String :=
  "unsupported accessor category '" ++ e.text ++
    "': valid options are 'getters', 'setters' or 'accessors'"

namespace Category

def kinds : Category → List Kind
  | getters => [.getter]
  | setters => [.setter]
  | accessors => [.getter, .setter]

def includes (c : Category) (k : Kind) : Bool :=
  c.kinds.contains k

def name : Category → String
  | getters => "getters"
  | setters => "setters"
  | accessors => "accessors"

/-- Reads a category. White space around it and the case of its letters do not matter. -/
def parse (text : String) : Except UnsupportedCategory Category :=
  match String.ofList (Text.lower (Text.trim text.toList)) with
  | "getter" | "getters" => .ok getters
  | "setter" | "setters" => .ok setters
  | "accessor" | "accessors" | "all" | "getter_and_setter" => .ok accessors
  | _ => .error ⟨text⟩

end Category

def filterByKinds (kinds : List Kind) (ms : List Method) : List MethodRef :=
  (Method.references ms).filter fun r => r.method.kind != .other && kinds.contains r.method.kind

def filterByCategory (c : Category) (ms : List Method) : List MethodRef :=
  filterByKinds c.kinds ms

end Accessor

def ClassModel.candidates (c : ClassModel) (category : Accessor.Category) : List Nat :=
  (Accessor.filterByCategory category c.methods).filterMap c.idOf?

end BeanDoc
