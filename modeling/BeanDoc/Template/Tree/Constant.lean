import BeanDoc.Template.Tree

/-! Operations on constants are calculated when the tree is built. An operation that fails is left
as it is, so that its fault arises only when it is evaluated. Each function takes the line on which
the operation starts, which is that of the constant. -/

namespace BeanDoc.Template

namespace Expr

def written? : Expr → Option Value
  | literal _ v => some v
  | _ => none

def constant? : Expr → Option Value
  | literal _ v => some v
  | folded _ v _ => some v
  | _ => none

def withValue (line : Nat) (v : Option Value) (e : Expr) : Expr :=
  match v with
  | some v => folded line v e
  | none => e

def ofItems (line : Nat) (es : List Expr) : Expr :=
  withValue line ((es.mapM written?).map .seq) (list (endLineOf line es) es)

def pairs {α : Type} : List α → List (α × α)
  | a :: b :: rest => (a, b) :: pairs rest
  | _ => []

def ofEntries (line : Nat) (es : List Expr) : Expr :=
  withValue line ((es.mapM written?).map fun vs => .ofEntries (pairs vs))
    (map (endLineOf line es) es)

def negated (line : Nat) (e : Expr) : Expr :=
  withValue line (e.constant?.bind fun v => v.neg.toOption) (neg line e)

def inverted (line : Nat) (e : Expr) : Expr :=
  withValue line (e.constant?.map fun v => .bool !v.isTrue) (not e)

def combined (line : Nat) (op : BinaryOp) (l r : Expr) : Expr :=
  let v := do
    let a ← l.constant?
    let b ← r.constant?
    (op.apply a b).toOption
  withValue line v (binary r.endLine op l r)

def conjunction (line : Nat) (l r : Expr) : Expr :=
  let v := do
    let a ← l.constant?
    let b ← r.constant?
    -- false whatever they are, if not both count as true
    return if a.isTrue && b.isTrue then b else .bool false
  withValue line v (and l r)

def disjunction (line : Nat) (l r : Expr) : Expr :=
  let v := do
    let a ← l.constant?
    let b ← r.constant?
    return if a.isTrue then a else b
  withValue line v (or l r)

/-- Whether comparisons in a row hold behind a value, if that is known. What follows one that does
not hold need not be constant. -/
def chainHolds? (before : Value) : List Comparison → List Expr → Option Bool
  | op :: ops, e :: es => do
    let v ← e.constant?
    if ← (op.holds before v).toOption then chainHolds? v ops es else return false
  | _, _ => some true

def compared (line : Nat) (ops : List Comparison) (first : Expr) (others : List Expr) : Expr :=
  let v := do
    let a ← first.constant?
    return .bool (← chainHolds? a ops others)
  withValue line v (compare ops (first :: others))

def describe : Expr → String
  | literal _ _ => "constant"
  | folded _ _ e => e.describe
  | name _ _ => "variable"
  | list _ _ => "list literal"
  | map _ _ => "map literal"
  | filter .. => "filter expression"
  | test .. => "test expression"
  | call .. => "call"
  | _ => "expression"

end Expr

end BeanDoc.Template
