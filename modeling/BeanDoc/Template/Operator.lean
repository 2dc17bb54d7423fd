import BeanDoc.Template.Value.Arithmetic

/-! The operators of expressions: those that calculate a value from two, and comparisons. -/

namespace BeanDoc.Template

inductive BinaryOp where
  | add
  | sub
  | mul
  | div
  | floorDiv
  | rem
  | pow
  | concat
  deriving DecidableEq, Repr

def BinaryOp.apply (op : BinaryOp) (l r : Value) : Except EvalFault Value :=
  match op with
  | .add => Value.add l r
  | .sub => Value.sub l r
  | .mul => Value.mul l r
  | .div => Value.div l r
  | .floorDiv => Value.floorDiv l r
  | .rem => Value.rem l r
  | .pow => Value.pow l r
  | .concat => .ok (.string (l.print ++ r.print))

inductive Comparison where
  | eq
  | ne
  | lt
  | le
  | gt
  | ge
  | within
  | without
  deriving DecidableEq, Repr

def Comparison.holds (op : Comparison) (l r : Value) : Except EvalFault Bool :=
  match op with
  | .eq => .ok (Value.equal l r)
  | .ne => .ok !(Value.equal l r)
  | .lt => .ok (Value.order l r == .lt)
  | .le => .ok (Value.order l r != .gt)
  | .gt => .ok (Value.order l r == .gt)
  | .ge => .ok (Value.order l r != .lt)
  | .within => Value.contains r l
  | .without => (Value.contains r l).map (!·)

end BeanDoc.Template
