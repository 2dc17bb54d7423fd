import BeanDoc.Template.Eval
import BeanDoc.Template.FreeNames

/-! Execution of statements, by recursion on the tree, and rendering of templates. Frames are nested
in each other up to a limit, and a call of a procedure counts as several. -/

namespace BeanDoc.Template

open Eval

def depthLimit : Nat := 500

def inFrame {α : Type} (line : Nat) (f : Frame) (act : Eval α) : Eval α := fun s =>
  if s.depth > depthLimit then fail line .recursionLimit s
  else
    match act (s.push f) with
    | .error e => .error e
    | .ok (a, t) => .ok (a, t.pop)

def selectItems (env : Environment) (target : Target) (only : Eval Value) :
    List Value → Eval (List Value)
  | [] => pure []
  | v :: vs => do
    modify fun s => s.modifyTop fun _ => {}
    target.assign env v
    let keep ← only
    let rest ← selectItems env target only vs
    return if keep.isTrue then v :: rest else rest

def iterateItems (env : Environment) (target : Target) (loop : Nat → Option Value → Option Value →
    Value) (body : Eval Unit) : (index : Nat) → (before : Option Value) → List Value → Eval Unit
  | _, _, [] => pure ()
  | index, before, v :: vs => do
    -- each round has a frame without any names but that of the loop
    modify fun s => s.modifyTop fun _ => { loop := some (loop index before vs.head?) }
    target.assign env v
    body
    iterateItems env target loop body (index + 1) (some v) vs

def loopLength : Value → Option Nat
  | .undefined | .none => some 0
  | .string .. => none
  | v => v.length?

def State.startLoop (s : State) (l : LoopBody) (recursive : Bool) (depth : Nat) :
    LoopScope × State :=
  let t := { s with loops := s.loops + 1 }
  if recursive then (.recursive s.loops depth, { t with recurring := (s.loops, l) :: s.recurring })
  else (.plain, t)

def runLoop (env : Environment) (l : LoopBody) (recursive : Bool)
    (exec : Environment → Eval Unit) (v : Value) : Eval Unit := do
  let vs ← lift l.line v.iterate
  let length := loopLength v
  let depth := env.loop.innerDepth
  inFrame l.line {} fun s =>
    let loop (index : Nat) (before after : Option Value) : Value :=
      .loop s.loops index length depth before after
    let (scope, t) := s.startLoop l recursive depth
    let inner := { env with loop := scope }
    iterateItems inner l.target loop (exec inner) 0 none vs t

def Expr.reentry? : Expr → Option (Nat × Expr)
  | .call line (.name _ "loop") [items] [.positional] => some (line, items)
  | _ => none

def isEmptyLoop (v : Value) : Bool :=
  match v.iterate with
  | .ok vs => vs.isEmpty
  | .error _ => false

def escapingOf (v : Value) : Except EvalFault Bool :=
  match v with
  | .string "html" _ => .ok true
  | .string "none" _ => .ok false
  | .string .. => .error .badEscaping
  | v => .ok (Value.equal v (.bool true))

def withEscaping (escaping : Bool) (act : Eval Unit) : Eval Unit := fun s =>
  match act { s with escaping := escaping } with
  | .error e => .error e
  | .ok ((), t) => .ok ((), { t with escaping := s.escaping })

def inBlock (line : Nat) (act : Eval Unit) : Eval Unit :=
  inFrame line {} fun s =>
    match act { s with inBlock := true } with
    | .error e => .error e
    | .ok ((), t) => .ok ((), { t with inBlock := s.inBlock })

def ownName : String := "<string>"

/-- Why a template cannot be based on another: there is none with any other name than its own. -/
def extendFault (template : Value) : EvalFault :=
  match template with
  | .string name _ =>
    if name = ownName then .templateCycle (Text.quoted name) else .noTemplate (Text.quoted name)
  | _ => .badTemplateName

def templateChoices (v : Value) : List Value :=
  if v.isObject then
    match v.iterate with
    | .ok vs => vs
    | .error _ => []
  else [v]

/-- Includes a template. There is none with any name, so that at best nothing is included. -/
def includeTemplate (template : Value) (optional : Bool) : Except EvalFault Unit :=
  let choices := templateChoices template
  if choices.any fun v => v.kind != .string then .error .badTemplateName
  else if optional then .ok ()
  else
    match choices with
    | [] => .ok ()
    | [v] => .error (.noIncluded v.nested)
    | vs => .error (.noneIncluded (Value.seq vs).nested)

def bindAll (env : Environment) : List Target → List Expr → Eval Unit
  | t :: ts, e :: es => do
    t.assign env (← e.eval env)
    bindAll env ts es
  | _, _ => pure ()

def newProcedure (env : Environment) (x : String) (parameters : List String)
    (defaults : List Expr) (body : List Stmt) : Eval Value := fun s =>
  let names := procedureNames parameters defaults body
  let callable := names.contains "caller"
  let (id, s) := s.topClosure
  let s := s.enclose env.context id (names.filter (· != "caller"))
  let d : Definition := ⟨parameters, callable, defaults, body, id⟩
  .ok (.procedure s.definitions.length x parameters callable,
    { s with definitions := s.definitions ++ [d] })

mutual

def Stmt.exec (env : Environment) : Stmt → Eval Unit
  | .text cs => emit (String.ofList cs)
  | .output e =>
    match e.reentry? with
    | some (line, items) => do env.again line (← items.eval env)
    | none => do emitValue (← e.eval env)
  | .choose test yes no => do
    if (← test.eval env).isTrue then execAll env yes else execAll env no
  | .loop target items only recursive body empty => do
    let line := items.endLine
    let v ← items.eval env
    let v ←
      match only with
      | none => pure v
      | some e => do
        let vs ← lift line v.iterate
        let inner := { env with loop := .plain }
        let kept ← inFrame line {} (selectItems inner target (e.eval inner) vs)
        pure (Value.seq kept)
    runLoop env ⟨line, target, body⟩ recursive (fun inner => execAll inner body) v
    if isEmptyLoop v then execAll env empty else pure ()
  | .scope line targets values body =>
    inFrame line {} do
      bindAll env targets values
      execAll env body
  | .assign target e => do target.assign env (← e.eval env)
  | .assignBlock target filters body => do
    let text ← capture (execAll env body)
    target.assign env (← filters.eval { env with captured := text })
  | .filterBlock filters body => do
    let text ← capture (execAll env body)
    emitValue (← filters.eval { env with captured := text })
  | .define x parameters defaults body => do
    let v ← newProcedure env x parameters defaults body
    modify fun s => s.store x v
  | .callBlock call parameters defaults body => do
    let v ← newProcedure env "caller" parameters defaults body
    emitValue (← call.eval { env with captured := v })
  | .perform call => do
    let _ ← call.eval env
  | .autoescape e body => do
    let escaping ← lift e.endLine (escapingOf (← e.eval env))
    withEscaping escaping (execAll env body)
  | .block line _ body => inBlock line (execAll env body)
  | .basedOn line e => do
    fail line (extendFault (← e.eval env))
  | .inclusion line e optional => do
    lift line (includeTemplate (← e.eval env) optional)
  | .importAll line e x => do
    inFrame line {} do lift line (includeTemplate (← e.eval env) false)
    modify fun s => s.store x (.ofEntries [])
  | .importSome line e names => do
    let vs ← inFrame line {} do
      lift line (includeTemplate (← e.eval env) false)
      fun s => .ok (names.map fun (x, _) => s.valueOf env.context x, s)
    modify fun s => ((names.map Prod.snd).zip vs).foldr (fun (x, v) s => s.store x v) s

def execAll (env : Environment) : List Stmt → Eval Unit
  | [] => pure ()
  | s :: ss => do
    s.exec env
    execAll env ss

end

def parameterValues (a : Arguments) : List String → List Value →
    Except EvalFault (List (String × Value))
  | [], _ => .ok []
  | x :: xs, vs =>
    match vs.head?, a.named? x with
    | some _, some _ => .error (.duplicateArgument x)
    | some v, none => (parameterValues a xs vs.tail).map ((x, v) :: ·)
    | none, some v => (parameterValues a xs []).map ((x, v) :: ·)
    | none, none => (parameterValues a xs []).map ((x, .undefined) :: ·)

def unknownName? (known : List String) : Value × Value → Option String
  | (.string x _, _) => if known.contains x then none else some x
  | _ => none

def bindParameters (d : Definition) (a : Arguments) : Except EvalFault (List (String × Value)) := do
  if a.positional.length > d.parameters.length then throw .tooManyArguments
  let bound ← parameterValues a d.parameters a.positional
  let known := if d.callable then "caller" :: d.parameters else d.parameters
  match (a.named.getD []).findSome? (unknownName? known) with
  | some x => throw (.unknownNamed x)
  | none => return bound

/-- Assigns the parameters, from the last to the first. One that is undefined takes its default
value, if it has one. Both lists start with the last parameter. -/
def assignParameters (env : Environment) : List (String × Value) → List Expr → Eval Unit
  | [], _ => pure ()
  | (x, v) :: rest, [] => do
    modify fun s => s.store x v
    assignParameters env rest []
  | (x, v) :: rest, e :: es => do
    let w ← if v.isUndefined then e.eval env else pure v
    modify fun s => s.store x w
    assignParameters env rest es

def callerBinding (d : Definition) (a : Arguments) : Bindings :=
  if d.callable then [("caller", (a.named? "caller").getD .undefined)] else []

/-- By how much a call deepens the nesting, besides its own frames. -/
def callCost : Nat := 4

def runDefinition (env : Environment) (line : Nat) (d : Definition) (a : Arguments)
    (bound : List (String × Value)) : Eval Value := fun s =>
  let frames := [{ locals := callerBinding d a, base := .closure d.closure }, { base := .context }]
  let start :=
    { s with frames := frames, outer := s.depth + callCost, blocks := [], inBlock := false }
  if start.depth > depthLimit then fail line .recursionLimit s
  else
    let act : Eval Unit := do
      assignParameters env bound.reverse d.defaults.reverse
      execAll env d.body
    match capture act start with
    | .error e => .error e
    | .ok (v, t) =>
      .ok (v, { t with
        frames := s.frames
        outer := s.outer
        blocks := s.blocks
        inBlock := s.inBlock })

def callProcedure (env : Environment) (line id : Nat) (a : Arguments) : Eval Value := fun s =>
  match s.definitions[id]? with
  | none => fail line (.notCallable .map) s
  | some d =>
    match bindParameters d a with
    | .error f => fail line f s
    | .ok bound => runDefinition env line d a bound s

def reenterLoop (env : Environment) (line id : Nat) (v : Value) : Eval Unit := fun s =>
  match s.recurring.lookup id, v.iterate with
  | none, _ => fail line .plainLoop s
  | some _, .error _ => fail line .noReentry s
  | some l, .ok _ => runLoop env l true (fun inner => execAll inner l.body) v s

def printBlock (env : Environment) (line : Nat) (x : String) : Eval Unit := fun s =>
  match s.blocks.lookup x with
  | none => fail line (.unknownBlock x) s
  | some body => inBlock line (execAll env body) s

/-- The environment in which so many calls, loops that are entered again and blocks can be inside
each other. -/
def environment (context : Bindings) : (fuel : Nat) → Environment
  | 0 => {
    context := context
    call := fun line _ _ => fail line .recursionLimit
    enter := fun _ line _ _ => fail line .recursionLimit
    block := fun _ line _ => fail line .recursionLimit }
  | fuel + 1 =>
    let inner := environment context fuel
    { context := context
      call := callProcedure inner
      enter := fun scope => reenterLoop { inner with loop := scope }
      block := fun scope => printBlock { inner with loop := scope } }

mutual

def Stmt.blocks : Stmt → List (String × List Stmt)
  | .choose _ yes no => blocksOf yes ++ blocksOf no
  | .loop _ _ _ _ body empty => blocksOf body ++ blocksOf empty
  | .scope _ _ _ body => blocksOf body
  | .assignBlock _ _ body => blocksOf body
  | .filterBlock _ body => blocksOf body
  | .autoescape _ body => blocksOf body
  | .block _ x body => (x, body) :: blocksOf body
  | _ => []

def blocksOf : List Stmt → List (String × List Stmt)
  | [] => []
  | s :: ss => s.blocks ++ blocksOf ss

end

/-- Renders the statements of a template. The limit of nesting bounds how many calls there are
inside each other. -/
def renderStatements (context : Bindings) (body : List Stmt) : Except LocatedEvalFault String :=
  let start : State := { frames := [{ base := .context }], blocks := blocksOf body }
  (execAll (environment context (depthLimit + 1)) body start).map (·.2.out)

end BeanDoc.Template
