/-! Classes as the generator sees them: a name, and methods with their signature, annotations and
documentation comment. Methods are addressed by their index in declaration order. -/

namespace BeanDoc

structure Parameter where
  name : String
  type : String
  deriving DecidableEq, Repr

structure Method where
  name : String := ""
  parameters : List Parameter := []
  returnType : Option String := none
  annotations : List String := []
  comment : Option String := none
  deriving DecidableEq, Repr, Inhabited

structure ClassModel where
  name : String := ""
  qualifiedName : String := ""
  isInterface : Bool := false
  methods : List Method := []
  deriving DecidableEq, Repr, Inhabited

/-- A reference to a method: the place where it stands, and what stands there. Methods that are
equal are told apart by their places. Those of a list stand at the places from zero on, and a method
that is not in the list stands behind them. -/
structure MethodRef where
  place : Nat
  method : Method
  deriving DecidableEq, Repr

def Method.references (ms : List Method) : List MethodRef :=
  ms.mapIdx MethodRef.mk

def ClassModel.methodsWithIds (c : ClassModel) : List (Nat × MethodRef) :=
  (Method.references c.methods).mapIdx Prod.mk

/-- The index of the method that is meant, if it is one of the class and not only equal to one. -/
def ClassModel.idOf? (c : ClassModel) (r : MethodRef) : Option Nat :=
  (c.methodsWithIds.find? fun p => p.2.place == r.place).map Prod.fst

def ClassModel.findMethod (c : ClassModel) (name : String) : Option Nat :=
  c.methods.findIdx? (·.name == name)

def Method.hasComment (m : Method) : Bool :=
  m.comment.isSome

end BeanDoc
