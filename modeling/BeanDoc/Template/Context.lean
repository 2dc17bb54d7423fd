import BeanDoc.Accessor.Kind
import BeanDoc.Template.Scope

/-! The variables of a comment template. -/

namespace BeanDoc.Template

structure Context where
  field : Option String := none
  fieldType : Option String := none
  className : String := ""
  fullClassName : String := ""
  projectName : String := ""
  deriving DecidableEq, Repr, Inhabited

namespace Context

def forMethod (c : ClassModel) (m : Method) (projectName : String) : Context where
  field := m.property.map (·.name)
  fieldType := m.property.map (·.type)
  className := c.name
  fullClassName := c.qualifiedName
  projectName := projectName

def sample : Context where
  field := some "testName"
  fieldType := some "int"
  className := "MyClass"
  fullClassName := "com.test.MyClass"
  projectName := "test-project"

def bindings (c : Context) : Bindings :=
  (c.field.map fun s => ("field", Value.string s)).toList ++
    (c.fieldType.map fun s => ("field_type", Value.string s)).toList ++
    [("class_name", .string c.className),
      ("full_class_name", .string c.fullClassName),
      ("project_name", .string c.projectName)]

end Context

end BeanDoc.Template
