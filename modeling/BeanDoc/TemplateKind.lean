import BeanDoc.Accessor.Kind

/-! The two comment templates, one for getters and one for setters, and what they are at first. -/

namespace BeanDoc

inductive TemplateKind where
  | getter
  | setter
  deriving DecidableEq, Repr

structure UnknownTemplateKind where
  text : String
  deriving DecidableEq, Repr

def UnknownTemplateKind.message (e : UnknownTemplateKind) : String :=
  "unknown template category '" ++ e.text ++ "': valid options are 'getter' or 'setter'"

namespace TemplateKind

def all : List TemplateKind :=
  [getter, setter]

def name : TemplateKind → String
  | getter => "Getter"
  | setter => "Setter"

def storageKey : TemplateKind → String
  | getter => "gendoc.getter.template"
  | setter => "gendoc.setter.template"

def default : TemplateKind → String
  | getter => "/**\n * Getter for field $field.\n *\n * @return the value of the field.\n */"
  | setter =>
    "/**\n * Setter for field $field.\n *\n * @param $field the value to set for the field.\n */"

def accessorKind : TemplateKind → Accessor.Kind
  | getter => .getter
  | setter => .setter

def forKind : Accessor.Kind → Option TemplateKind
  | .getter => some getter
  | .setter => some setter
  | .other => none

def parse (text : String) : Except UnknownTemplateKind TemplateKind :=
  let word := String.ofList ((Text.trim text.toList).map Char.toLower)
  if word == "getter" then .ok getter
  else if word == "setter" then .ok setter
  else .error ⟨text⟩

end TemplateKind

end BeanDoc
