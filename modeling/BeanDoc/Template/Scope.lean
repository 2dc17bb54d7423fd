import BeanDoc.Template.Tree
import BeanDoc.Template.Value.Order

/-! What names stand for while a template is rendered. Frames are looked through from the innermost
outwards. A frame in which a procedure was defined shares a closure with it: what is assigned in the
frame later to the names in the closure is seen by the procedure. -/

namespace BeanDoc.Template

/-- Values by name; of several with one name the first counts. -/
abbrev Bindings := List (String × Value)

/-- What a frame falls back on for names that were not assigned in it. -/
inductive Base where
  | nothing
  | context
  | closure (id : Nat)
  deriving DecidableEq, Repr

structure Frame where
  locals : Bindings := []
  /-- The closure that assignments in this frame go to as well, if it has the name. -/
  closure : Option Nat := none
  /-- The state of the loop that the frame belongs to. -/
  loop : Option Value := none
  base : Base := .nothing

structure Definition where
  parameters : List String
  /-- Whether it uses a caller, which is then one more parameter. -/
  callable : Bool
  /-- The default values of the last parameters. -/
  defaults : List Expr
  body : List Stmt
  closure : Nat

/-- A recursive loop, which can be entered again. Its line is that of its faults. -/
structure LoopBody where
  line : Nat
  target : Target
  body : List Stmt

structure State where
  frames : List Frame
  /-- How deep the innermost call is nested. -/
  outer : Nat := 0
  closures : List Bindings := []
  definitions : List Definition := []
  /-- The entries of namespaces, by their number. -/
  namespaces : List (List (Value × Value)) := []
  /-- How many loops there have been. -/
  loops : Nat := 0
  /-- The recursive ones among them, by their number. -/
  recurring : List (Nat × LoopBody) := []
  /-- The values that loops were last asked about, by the number of the loop. -/
  seen : List (Nat × List Value) := []
  /-- Whether texts are escaped. -/
  escaping : Bool := false
  /-- The blocks that can be printed by their name. A procedure sees none. -/
  blocks : List (String × List Stmt) := []
  inBlock : Bool := false
  out : String := ""

abbrev LocatedEvalFault := EvalFault × Nat

abbrev Eval (α : Type) := State → Except LocatedEvalFault (α × State)

namespace Eval

instance : Monad Eval where
  pure a := fun s => .ok (a, s)
  bind p f := fun s =>
    match p s with
    | .error e => .error e
    | .ok (a, s) => f a s

def fail {α : Type} (line : Nat) (f : EvalFault) : Eval α := fun _ =>
  .error (f, line)

def lift {α : Type} (line : Nat) (r : Except EvalFault α) : Eval α := fun s =>
  match r with
  | .ok a => .ok (a, s)
  | .error f => .error (f, line)

def modify (f : State → State) : Eval Unit := fun s =>
  .ok ((), f s)

end Eval

mutual

def Value.withEntries (f : Nat → List (Value × Value) → List (Value × Value)) : Value → Value
  | .list shape vs => .list shape (Value.itemsWith f vs)
  | .repeated vs n => .repeated (Value.itemsWith f vs) n
  | .map (.shared id) es => .map (.shared id) (f id es)
  | .map form es => .map form (Value.entriesWith f es)
  | v => v

def Value.itemsWith (f : Nat → List (Value × Value) → List (Value × Value)) :
    List Value → List Value
  | [] => []
  | v :: vs => v.withEntries f :: Value.itemsWith f vs

def Value.entriesWith (f : Nat → List (Value × Value) → List (Value × Value)) :
    List (Value × Value) → List (Value × Value)
  | [] => []
  | (k, v) :: es => (k.withEntries f, v.withEntries f) :: Value.entriesWith f es

end

def globals : Bindings :=
  [("range", .function .range),
    ("dict", .function .dict),
    ("namespace", .function .newNamespace)]

namespace State

def find (s : State) (context : Bindings) (f : Frame) (x : String) : Option Value :=
  (f.locals.lookup x).or <|
    (if x = "loop" then f.loop else none).or <|
      match f.base with
      | .nothing => none
      | .context => context.lookup x
      | .closure id => (s.closures[id]?).bind (·.lookup x)

def load (s : State) (context : Bindings) (x : String) : Option Value :=
  (s.frames.findSome? fun f => s.find context f x).or (globals.lookup x)

/-- The entries that a namespace has now; they can hold other namespaces, so deep inside each other
at most. -/
def entriesAt (s : State) : (fuel : Nat) → (id : Nat) → List (Value × Value) → List (Value × Value)
  | 0, _, es => es
  | fuel + 1, id, es =>
    Value.entriesWith (s.entriesAt fuel) ((s.namespaces[id]?).getD es)

/-- A value in which all namespaces have the entries that they have now. -/
def refresh (s : State) (v : Value) : Value :=
  if s.namespaces.isEmpty then v else v.withEntries (s.entriesAt s.namespaces.length)

def valueOf? (s : State) (context : Bindings) (x : String) : Option Value :=
  (s.load context x).map s.refresh

def valueOf (s : State) (context : Bindings) (x : String) : Value :=
  (s.valueOf? context x).getD .undefined

def depth (s : State) : Nat :=
  s.outer + s.frames.length

def addNamespace (s : State) (entries : List (Value × Value)) : Value × State :=
  (.map (.shared s.namespaces.length) entries,
    { s with namespaces := s.namespaces ++ [entries] })

def setEntry (s : State) (id : Nat) (x : String) (v : Value) : State :=
  { s with namespaces := s.namespaces.modify id (Value.insertEntry (.string x) v) }

/-- Whether a loop was last asked about other values, and the state in which it was asked about
these. -/
def ask (s : State) (id : Nat) (vs : List Value) : Bool × State :=
  if (s.seen.lookup id).any fun ws => Value.equal (.seq ws) (.seq vs) then (false, s)
  else (true, { s with seen := (id, vs) :: s.seen })

def modifyTop (s : State) (f : Frame → Frame) : State :=
  match s.frames with
  | [] => s
  | top :: frames => { s with frames := f top :: frames }

def store (s : State) (x : String) (v : Value) : State :=
  match s.frames with
  | [] => s
  | top :: frames =>
    let closures :=
      match top.closure with
      | some id =>
        s.closures.modify id fun names => if (names.lookup x).isSome then (x, v) :: names else names
      | none => s.closures
    { s with frames := { top with locals := (x, v) :: top.locals } :: frames, closures := closures }

def push (s : State) (f : Frame) : State :=
  { s with frames := f :: s.frames }

def pop (s : State) : State :=
  { s with frames := s.frames.tail }

def topClosure (s : State) : Nat × State :=
  match s.frames with
  | [] => (0, s)
  | top :: frames =>
    match top.closure with
    | some id => (id, s)
    | none =>
      let id := s.closures.length
      (id, { s with
        frames := { top with closure := some id } :: frames
        closures := s.closures ++ [[]] })

/-- Puts the current values of names into a closure, except those that it has already. -/
def enclose (s : State) (context : Bindings) (id : Nat) : List String → State
  | [] => s
  | x :: xs =>
    let s :=
      match (s.closures[id]?).bind (·.lookup x) with
      | some _ => s
      | none =>
        let v := (s.load context x).getD .undefined
        { s with closures := s.closures.modify id ((x, v) :: ·) }
    s.enclose context id xs

end State

end BeanDoc.Template
