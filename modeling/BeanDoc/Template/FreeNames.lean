import BeanDoc.Template.Tree

/-! The names that a procedure takes from where it is defined: those that it uses and does not
assign itself before it uses them. What is sliced, the filters of blocks, and the names of other
templates do not count. Names that a procedure inside it binds stay bound behind that. -/

namespace BeanDoc.Template

mutual

def Expr.freeNames (bound : List String) : Expr → List String
  | .literal _ _ => []
  | .folded _ _ e => e.freeNames bound
  | .name _ x => if bound.contains x then [] else [x]
  | .captured _ => []
  | .list _ es => freeNamesList bound es
  | .map _ es => freeNamesList bound es
  | .neg _ e => e.freeNames bound
  | .not e => e.freeNames bound
  | .binary _ _ l r => l.freeNames bound ++ r.freeNames bound
  | .compare _ es => freeNamesList bound es
  | .and l r => l.freeNames bound ++ r.freeNames bound
  | .or l r => l.freeNames bound ++ r.freeNames bound
  | .choose _ t y n => t.freeNames bound ++ y.freeNames bound ++ n.freeNames bound
  | .member _ e _ => e.freeNames bound
  | .item _ e k => e.freeNames bound ++ k.freeNames bound
  | .slice _ _ a b c => a.freeNames bound ++ b.freeNames bound ++ c.freeNames bound
  | .filter _ _ e es _ => e.freeNames bound ++ freeNamesList bound es
  | .test _ _ e es _ => e.freeNames bound ++ freeNamesList bound es
  | .call _ e es _ => e.freeNames bound ++ freeNamesList bound es

def freeNamesList (bound : List String) : List Expr → List String
  | [] => []
  | e :: es => e.freeNames bound ++ freeNamesList bound es

end

mutual

def Target.names : Target → List String
  | .name x => [x]
  | .list _ ts => targetNames ts
  | .member _ _ => []

def targetNames : List Target → List String
  | [] => []
  | t :: ts => t.names ++ targetNames ts

end

mutual

def Target.freeNames (bound : List String) : Target → List String
  | .name _ => []
  | .list _ ts => freeTargetNames bound ts
  | .member e _ => e.freeNames bound

def freeTargetNames (bound : List String) : List Target → List String
  | [] => []
  | t :: ts => t.freeNames bound ++ freeTargetNames bound ts

end

def freeInBindings : (bound : List String) → List Target → List Expr → List String × List String
  | bound, t :: ts, e :: es =>
    let bound := t.names ++ bound
    let (more, last) := freeInBindings bound ts es
    (e.freeNames bound ++ more, last)
  | bound, _, _ => ([], bound)

mutual

/-- The free names of a statement, and the names bound behind it. -/
def Stmt.freeNames (bound : List String) : Stmt → List String × List String
  | .text _ => ([], bound)
  | .output e => (e.freeNames bound, bound)
  | .choose t yes no =>
    (t.freeNames bound ++ (freeNamesBody bound yes).1 ++ (freeNamesBody bound no).1, bound)
  | .loop target items only _ body empty =>
    let outer := "loop" :: bound
    let inner := target.names ++ outer
    (items.freeNames outer ++ (match only with | some e => e.freeNames inner | none => []) ++
      (freeNamesBody inner body).1 ++ (freeNamesBody bound empty).1, bound)
  | .scope _ targets values body =>
    let (names, inner) := freeInBindings bound targets values
    (names ++ (freeNamesBody inner body).1, bound)
  | .assign target e =>
    let bound := target.names ++ bound
    (target.freeNames bound ++ e.freeNames bound, bound)
  | .assignBlock target _ body =>
    let bound := target.names ++ bound
    (target.freeNames bound ++ (freeNamesBody bound body).1, bound)
  | .filterBlock _ body => ((freeNamesBody bound body).1, bound)
  | .define x parameters defaults body =>
    let inner := parameters ++ "caller" :: x :: bound
    let (names, last) := freeNamesBody inner body
    (freeNamesList inner defaults ++ names, last)
  | .callBlock call parameters defaults body =>
    let inner := parameters ++ "caller" :: bound
    let (names, last) := freeNamesBody inner body
    (call.freeNames bound ++ freeNamesList inner defaults ++ names, last)
  | .perform call => (call.freeNames bound, bound)
  | .autoescape _ body => ((freeNamesBody bound body).1, bound)
  | .block _ _ body => ((freeNamesBody bound body).1, bound)
  | .basedOn _ _ => ([], bound)
  | .inclusion _ _ _ => ([], bound)
  | .importAll _ _ x => ([], x :: bound)
  | .importSome _ _ names => ([], names.map Prod.snd ++ bound)

def freeNamesBody (bound : List String) : List Stmt → List String × List String
  | [] => ([], bound)
  | s :: ss =>
    let (names, bound) := s.freeNames bound
    let (more, last) := freeNamesBody bound ss
    (names ++ more, last)

end

/-- The names that a procedure takes from where it is defined or, in the case of its caller, from
where it is called. -/
def procedureNames (parameters : List String) (defaults : List Expr) (body : List Stmt) :
    List String :=
  freeNamesList parameters defaults ++ (freeNamesBody parameters body).1

end BeanDoc.Template
