import BeanDoc.Template.Operator

/-! Templates as trees: expressions and statements. Where an operation can fail, its node has the
line that is reported. -/

namespace BeanDoc.Template

/-- What an argument of a call is: a value, the items of a list, a value with a name, or the entries
of a map as values with names. -/
inductive Role where
  | positional
  | spread
  | named (x : String)
  | spreadNamed
  deriving DecidableEq, Repr

def Role.isNamed : Role → Bool
  | positional => false
  | spread => false
  | named _ => true
  | spreadNamed => true

inductive Expr where
  | literal (line : Nat) (v : Value)
  /-- A list, map or operation whose value is known beforehand. -/
  | folded (line : Nat) (v : Value) (e : Expr)
  | name (line : Nat) (x : String)
  /-- What a block hands over: the text that it has captured, or the procedure that it is. -/
  | captured (line : Nat)
  | list (line : Nat) (items : List Expr)
  /-- Keys and values in turn. -/
  | map (line : Nat) (entries : List Expr)
  | neg (line : Nat) (e : Expr)
  | not (e : Expr)
  | binary (line : Nat) (op : BinaryOp) (l r : Expr)
  /-- Comparisons in a row, each between two neighbours. -/
  | compare (ops : List Comparison) (operands : List Expr)
  | and (l r : Expr)
  | or (l r : Expr)
  | choose (line : Nat) (test yes no : Expr)
  | member (line : Nat) (e : Expr) (x : String)
  | item (line : Nat) (e key : Expr)
  | slice (line : Nat) (e start stop step : Expr)
  /-- Arguments with names come last. -/
  | filter (line : Nat) (x : String) (e : Expr) (args : List Expr) (roles : List Role)
  | test (line : Nat) (x : String) (e : Expr) (args : List Expr) (roles : List Role)
  | call (line : Nat) (callee : Expr) (args : List Expr) (roles : List Role)
  deriving Inhabited

mutual

/-- The line on which faults of an operation are reported whose last operand is the expression. -/
def Expr.endLine : Expr → Nat
  | .literal line _ => line
  | .folded line _ _ => line
  | .name line _ => line
  | .captured line => line
  | .list line _ => line
  | .map line _ => line
  | .neg _ e => e.endLine
  | .not e => e.endLine
  | .binary line _ _ _ => line
  | .compare _ es => endLineOf 0 es
  | .and _ r => r.endLine
  | .or _ r => r.endLine
  | .choose line _ _ _ => line
  | .member line _ _ => line
  | .item line _ _ => line
  | .slice line _ _ _ _ => line
  | .filter line _ _ _ _ => line
  | .test line _ _ _ _ => line
  | .call line _ _ _ => line

def endLineOf (line : Nat) : List Expr → Nat
  | [] => line
  | e :: es => endLineOf e.endLine es

end

/-- What values are assigned to: a name, the targets for the items of a list, or an entry of a
namespace. -/
inductive Target where
  | name (x : String)
  | list (line : Nat) (targets : List Target)
  | member (e : Expr) (x : String)
  deriving Inhabited

inductive Stmt where
  | text (cs : List Char)
  | output (e : Expr)
  | choose (test : Expr) (yes no : List Stmt)
  /-- A recursive loop can be entered again from its body, with other items. -/
  | loop (target : Target) (items : Expr) (only : Option Expr) (recursive : Bool)
      (body empty : List Stmt)
  | scope (line : Nat) (targets : List Target) (values : List Expr) (body : List Stmt)
  | assign (target : Target) (e : Expr)
  /-- Assigns what the body renders, after filters that are applied to it. -/
  | assignBlock (target : Target) (filters : Expr) (body : List Stmt)
  | filterBlock (filters : Expr) (body : List Stmt)
  /-- Defines a procedure. The last parameters have the given default values. -/
  | define (x : String) (parameters : List String) (defaults : List Expr) (body : List Stmt)
  /-- Makes a call that the body is handed over to as a procedure. -/
  | callBlock (call : Expr) (parameters : List String) (defaults : List Expr) (body : List Stmt)
  /-- Makes a call and drops its result. -/
  | perform (call : Expr)
  /-- Executes the body where texts are escaped or not, as the value says. -/
  | autoescape (e : Expr) (body : List Stmt)
  /-- A part of the template with a name, by which it can be printed again. -/
  | block (line : Nat) (x : String) (body : List Stmt)
  /-- The template whose blocks this one replaces. -/
  | basedOn (line : Nat) (template : Expr)
  /-- Another template, or the first that there is of several. -/
  | inclusion (line : Nat) (template : Expr) (optional : Bool)
  /-- Assigns the names that another template defines, as one value. -/
  | importAll (line : Nat) (template : Expr) (x : String)
  /-- Assigns some of the names that another template defines, each to a name. -/
  | importSome (line : Nat) (template : Expr) (names : List (String × String))
  deriving Inhabited

end BeanDoc.Template
