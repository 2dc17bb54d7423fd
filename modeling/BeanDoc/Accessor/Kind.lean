import BeanDoc.Accessor.Property
import BeanDoc.ClassModel
import BeanDoc.Text.Blank

/-! Getters and setters. A method is an accessor by its signature alone, with one rule for each kind;
one that is marked as an override documents itself through the method it overrides and counts as
neither. -/

namespace BeanDoc

namespace Accessor

inductive Kind where
  | getter
  | setter
  | other
  deriving DecidableEq, Repr

def booleanTypes : List String :=
  ["boolean", "Boolean", "java.lang.Boolean"]

/-- The annotations that mark an override, without their leading `@`. -/
def overrideMarks : List String :=
  ["Override", "java.lang.Override"]

end Accessor

open Accessor

def Method.isVoid (m : Method) : Bool :=
  match m.returnType with
  | none => true
  | some t => Text.trimmed t == "void"

def Method.isOverride (m : Method) : Bool :=
  m.annotations.any fun a =>
    overrideMarks.contains (String.ofList (a.toList.dropWhile (· == '@')))

def Method.getterProperty (m : Method) : Option Property :=
  match m.parameters, m.returnType with
  | [], some t =>
    let type := Text.trimmed t
    if type == "void" then none
    else
      let name :=
        (propertyAfter "get" m.name).or
          (if booleanTypes.contains type then propertyAfter "is" m.name else none)
      name.map fun n => ⟨n, type⟩
  | _, _ => none

def Method.setterProperty (m : Method) : Option Property :=
  match m.parameters with
  | [p] =>
    if m.isVoid then (propertyAfter "set" m.name).map fun n => ⟨n, Text.trimmed p.type⟩ else none
  | _ => none

namespace Accessor

structure Rule where
  kind : Kind
  bind : Method → Option Property

def Rule.applies (r : Rule) (m : Method) : Bool :=
  (r.bind m).isSome

def rules : List Rule :=
  [⟨.getter, Method.getterProperty⟩, ⟨.setter, Method.setterProperty⟩]

def ruleFor (k : Kind) : Option Rule :=
  rules.find? (·.kind = k)

end Accessor

/-- The property a method reads or writes, whether or not it is an override. -/
def Method.property (m : Method) : Option Property :=
  rules.findSome? (·.bind m)

def Method.propertyAs (m : Method) (k : Kind) : Option (Option Property) :=
  (ruleFor k).map (·.bind m)

def Method.kind (m : Method) : Kind :=
  if m.isOverride then .other else ((rules.find? (·.applies m)).map (·.kind)).getD .other

end BeanDoc
