import BeanDoc.Template.Filter
import BeanDoc.Template.Function
import BeanDoc.Template.Scope
import BeanDoc.Template.Test
import BeanDoc.Template.Tree.Constant
import BeanDoc.Template.Value.Access

/-! Evaluation of expressions, by recursion on the tree. What an expression can start that is no
part of it, a call of a procedure or another round of a loop, goes through the environment. -/

namespace BeanDoc.Template

open Eval

/-- The innermost loop around an expression. A recursive one, of which the number is given, can be
entered again. -/
inductive LoopScope where
  | outside
  | plain
  | recursive (id depth : Nat)

def LoopScope.innerDepth : LoopScope → Nat
  | recursive _ depth => depth + 1
  | _ => 0

structure Environment where
  context : Bindings
  /-- Calls a procedure, by its number, from the given line. -/
  call : Nat → Nat → Arguments → Eval Value
  /-- Enters a recursive loop again, by its number, from the given line of a scope. -/
  enter : LoopScope → Nat → Nat → Value → Eval Unit
  /-- Prints a block, by its name, from the given line of a scope. -/
  block : LoopScope → Nat → String → Eval Unit
  /-- What the current block hands over. -/
  captured : Value := .undefined
  loop : LoopScope := .outside

def capture (act : Eval Unit) : Eval Value := fun s =>
  match act { s with out := "" } with
  | .error e => .error e
  | .ok ((), t) =>
    .ok (.string t.out (if s.escaping then .safe else .plain), { t with out := s.out })

def emit (text : String) : Eval Unit :=
  modify fun s => { s with out := s.out ++ text }

def emitValue (v : Value) : Eval Unit := fun s =>
  emit (if s.escaping then v.escaped else v.print) s

def namedArguments : List Role → List Value → Except EvalFault (List (Value × Value))
  | .named x :: roles, v :: vs => do return (.string x, v) :: (← namedArguments roles vs)
  | .spreadNamed :: roles, v :: vs =>
    match v.entries? with
    | some es => do return es ++ (← namedArguments roles vs)
    | none => .error (.namedFrom v.kind)
  | _ :: roles, _ :: vs => namedArguments roles vs
  | _, _ => .ok []

def positionalArguments : List Role → List Value → Except EvalFault (List Value)
  | .positional :: roles, v :: vs => do return v :: (← positionalArguments roles vs)
  | .spread :: roles, v :: vs => do
    let items ← v.iterate
    return items ++ (← positionalArguments roles vs)
  | _ :: roles, _ :: vs => positionalArguments roles vs
  | _, _ => .ok []

/-- The values that a call hands over, from those of the expressions that stand there. Behind the
others there is a map of the named arguments, if there can be any. -/
def argumentValues (roles : List Role) (vs : List Value) : Except EvalFault (List Value) := do
  let named ← namedArguments roles vs
  let positional ← positionalArguments roles vs
  if roles.any Role.isNamed then
    return positional ++ [.map .arguments (Value.sortEntries named)]
  else return positional

def Builtin.call (line : Nat) (vs : List Value) : Builtin → Eval Value
  | .range => lift line (Template.range vs)
  | .dict => lift line (Template.dict (.ofValues vs))
  | .newNamespace => do
    let entries ← lift line (namespaceEntries vs)
    fun s => .ok (s.addNamespace entries)

def Value.call (env : Environment) (line : Nat) (v : Value) (vs : List Value) : Eval Value :=
  match v with
  | .procedure id _ _ _ => env.call line id (.ofValues vs)
  | .function f => f.call line vs
  | .loop .. => fail line .loopNotCallable
  | .list .. | .repeated .. | .map .. => fail line .objectNotCallable
  | v => fail line (.notCallable v.kind)

def Value.callMethod (env : Environment) (line : Nat) (v : Value) (x : String) (vs : List Value) :
    Eval Value :=
  match v, x with
  | .loop _ index _ _ _ _, "cycle" => pure ((vs[index % vs.length]?).getD .undefined)
  | .loop id _ _ _ _ _, "changed" => fun s =>
    let (b, s) := s.ask id vs
    .ok (.bool b, s)
  | v, x =>
    match v.attribute? x with
    | some w => w.call env line vs
    | Option.none => fail line (.unknownMethod v.kind x)

def Environment.again (env : Environment) (line : Nat) (v : Value) : Eval Unit :=
  match env.loop with
  | .outside => fail line (.unknownFunction "loop")
  | .plain => fail line .plainLoop
  | .recursive id _ => env.enter env.loop line id v

/-- Asks for what a block replaces. There is none, as no template is based on another. -/
def callSuper (line : Nat) (vs : List Value) : Eval Value := fun s =>
  if vs.isEmpty then fail line (if s.inBlock then .noParentBlock else .superOutside) s
  else fail line .superArguments s

/-- Calls what a name stands for. The call of a loop enters it again, and gives back what it prints.
One name is reserved for what a block replaces. -/
def callNamed (env : Environment) (line : Nat) (x : String) (vs : List Value) : Eval Value :=
  if x = "super" then callSuper line vs
  else fun s =>
    match s.valueOf? env.context x, vs with
    | Option.none, _ => fail line (.unknownFunction x) s
    | some (.loop id ..), [v] => capture (env.enter env.loop line id v) s
    | some (.loop ..), _ => fail line .loopArguments s
    | some v, vs => v.call env line vs s

mutual

def Expr.eval (env : Environment) : Expr → Eval Value
  | .literal _ v => pure v
  | .folded _ v _ => pure v
  | .name _ x => fun s => .ok (s.valueOf env.context x, s)
  | .captured _ => pure env.captured
  | .list _ es => do return .seq (← evalList env es)
  | .map _ es => do return .ofEntries (Expr.pairs (← evalList env es))
  | .neg line e => do lift line (← e.eval env).neg
  | .not e => do return .bool !(← e.eval env).isTrue
  | .binary line op l r => do
    let a ← l.eval env
    let b ← r.eval env
    lift line (op.apply a b)
  | .compare ops es => evalChain env Option.none ops es
  | .and l r => do
    let a ← l.eval env
    if a.isTrue then r.eval env else return a
  | .or l r => do
    let a ← l.eval env
    if a.isTrue then return a else r.eval env
  | .choose _ test yes no => do
    if (← test.eval env).isTrue then yes.eval env else no.eval env
  | .member _ e x => do return (← e.eval env).member x
  | .item _ e key => do
    let v ← e.eval env
    let k ← key.eval env
    return v.item k
  | .slice line e start stop step => do
    let v ← e.eval env
    let a ← start.eval env
    let b ← stop.eval env
    let c ← step.eval env
    lift line (v.slice a b c)
  | .filter line x e args roles => do
    let v ← e.eval env
    let vs ← evalList env args
    let vs ← lift line (argumentValues roles vs)
    lift line (Filter.apply x v vs)
  | .test line x e args roles => do
    let v ← e.eval env
    let vs ← evalList env args
    let vs ← lift line (argumentValues roles vs)
    return .bool (← lift line (Test.apply x v vs))
  | .call line (.name _ x) args roles => do
    let vs ← evalList env args
    let vs ← lift line (argumentValues roles vs)
    callNamed env line x vs
  | .call line (.member _ (.name _ "self") x) _ _ => capture (env.block env.loop line x)
  | .call line (.member _ e x) args roles => do
    let v ← e.eval env
    let vs ← evalList env args
    let vs ← lift line (argumentValues roles vs)
    v.callMethod env line x vs
  | .call line callee args roles => do
    let v ← callee.eval env
    let vs ← evalList env args
    let vs ← lift line (argumentValues roles vs)
    v.call env line vs

def evalList (env : Environment) : List Expr → Eval (List Value)
  | [] => pure []
  | e :: es => do
    let v ← e.eval env
    let vs ← evalList env es
    return v :: vs

/-- Comparisons in a row behind an operand: true if all hold. What follows one that does not hold is
not evaluated. -/
def evalChain (env : Environment) : (before : Option Value) → List Comparison → List Expr →
    Eval Value
  | Option.none, ops, e :: es => do
    let v ← e.eval env
    evalChain env (some v) ops es
  | some u, op :: ops, e :: es => do
    let v ← e.eval env
    if ← lift e.endLine (op.holds u v) then evalChain env (some v) ops es
    else return .bool false
  | _, _, _ => return .bool true

end

mutual

def Target.assign (env : Environment) (v : Value) : Target → Eval Unit
  | .name x => modify fun s => s.store x v
  | .list line ts =>
    match v.contents? with
    | none => fail line .notUnpackable
    | some items =>
      if items.length = ts.length then assignAll env items ts
      else fail line (.wrongLength ts.length items.length)
  | .member e x => do
    match ← e.eval env with
    | .map (.shared id) _ => modify fun s => s.setEntry id x v
    | w => fail e.endLine (.noNamespace w.kind)

def assignAll (env : Environment) : List Value → List Target → Eval Unit
  | v :: vs, t :: ts => do
    t.assign env v
    assignAll env vs ts
  | _, _ => pure ()

end

end BeanDoc.Template
