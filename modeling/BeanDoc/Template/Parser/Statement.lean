import BeanDoc.Template.Parser.Expression

/-! Reading statements and whole templates. -/

namespace BeanDoc.Template

namespace Parser

def reservedNames : List String :=
  ["true", "True", "false", "False", "none", "None", "loop", "self"]

def targetName : Parser String := do
  let x ← identifier
  if reservedNames.contains x then fail (.reservedName x) else return x

def endsTargets : Token → Bool
  | .outputEnd | .blockEnd => true
  | .ident x => x == "in"
  | .mark s => s == ")"
  | _ => false

def targetMember : (fuel : Nat) → Expr → (x : String) → Parser Target
  | 0, e, x => return .member e x
  | fuel + 1, e, x => do
    if ← skipMark "." then targetMember fuel (.member e.endLine e x) (← identifier)
    else return .member e x

def targetLeaf (dotted : Bool) : Parser Target := do
  let x ← targetName
  let line ← lastLine
  if ← (if dotted then skipMark "." else pure false) then
    targetMember ((← size) + 1) (.name line x) (← identifier)
  else return .name x

/-- The target that several make up; a single one without a comma stands for itself. -/
def targetOf (line : Nat) (comma : Bool) : List Target → Target
  | [t] => if comma then .list line [t] else t
  | ts => .list line ts

/-- Reads targets with commas between them; the result says whether there was a comma. -/
def targetList (dotted : Bool) : (fuel : Nat) → (isFirst : Bool) → Parser (List Target × Bool)
  | 0, _ => return ([], false)
  | fuel + 1, isFirst => do
    if !isFirst then expectMark ","
    if ← matchesNext endsTargets then return ([], false)
    else
      let t ←
        if ← skipMark "(" then
          let line ← peekLine
          let (ts, comma) ← targetList dotted fuel true
          expectMark ")"
          pure (targetOf line comma ts)
        else targetLeaf dotted
      if ← matchesNext (Token.isMark ",") then
        let (ts, _) ← targetList dotted fuel false
        return (t :: ts, true)
      else return ([t], false)

def target (dotted : Bool) : Parser Target := do
  let line ← peekLine
  let (ts, comma) ← targetList dotted ((← size) + 1) true
  return targetOf line comma ts

def bracketedTarget : Parser Target := do
  let t ← target false
  expectMark ")"
  return t

def endOfBlock : Parser Unit :=
  expect Token.isBlockEnd "end of block"

structure Parts where
  expr : Parser Expr
  /-- An expression that is no conditional, which does not count for the depth itself. -/
  plain : Parser Expr
  nested : Nested
  /-- Statements up to a tag with one of the names. -/
  body : List String → Parser (List Stmt)

def filterChain (n : Nested) : (fuel : Nat) → Option Expr → Parser Expr
  | 0, e => return e.getD (.captured 0)
  | fuel + 1, e => do
    if ← matchesNext Token.isBlockEnd then
      match e with
      | some e => return e
      | none => fail .noFilter
    else
      if e.isSome then expectMark "|"
      let line ← peekLine
      let x ← dottedName
      let a ← optionalArguments n
      let inner := e.getD (.captured line)
      filterChain n fuel (some (.filter (a.endLine inner.endLine) x inner a.values a.roles))

def condition (p : Parts) : (fuel : Nat) → Parser Stmt
  | 0 => fail .tooDeep
  | fuel + 1 => do
    let test ← p.plain
    endOfBlock
    let yes ← p.body ["endif", "else", "elif"]
    match ← next with
    | some (.ident "else") =>
      endOfBlock
      let no ← p.body ["endif"]
      let _ ← next
      return .choose test yes no
    | some (.ident "elif") => return .choose test yes [← condition p fuel]
    | _ => return .choose test yes []

def loopStmt (p : Parts) : Parser Stmt := do
  let t ← target false
  expect (Token.isIdent "in") "in"
  let items ← p.plain
  let only ← if ← skipIdent "if" then some <$> p.expr else pure none
  let recursive ← skipIdent "recursive"
  endOfBlock
  let body ← p.body ["endfor", "else"]
  let empty ←
    if ← skipIdent "else" then do
      endOfBlock
      p.body ["endfor"]
    else pure []
  let _ ← next
  return .loop t items only recursive body empty

def bindings (p : Parts) : (fuel : Nat) → (isFirst : Bool) → Parser (List (Target × Expr))
  | 0, _ => return []
  | fuel + 1, isFirst => do
    if ← matchesNext Token.isBlockEnd then return []
    else
      if !isFirst then expect (Token.isMark ",") "comma"
      let t ← if ← skipMark "(" then bracketedTarget else Target.name <$> targetName
      expect (Token.isMark "=") "assignment operator"
      let e ← p.expr
      return (t, e) :: (← bindings p fuel false)

def scopeStmt (p : Parts) : Parser Stmt := do
  let line ← lastLine
  let bs ← bindings p ((← size) + 1) true
  endOfBlock
  let body ← p.body ["endwith"]
  let _ ← next
  return .scope line (bs.map (·.1)) (bs.map (·.2)) body

def openItems (expr : Parser Expr) : (fuel : Nat) → Parser (List Expr)
  | 0 => return []
  | fuel + 1 => do
    if ← skipMark "," then
      if ← matchesNext Token.isBlockEnd then return []
      else
        let e ← expr
        return e :: (← openItems expr fuel)
    else return []

def assignedValue (expr : Parser Expr) : Parser Expr := do
  let line ← peekLine
  let e ← expr
  if ← matchesNext (Token.isMark ",") then
    return .ofItems line (e :: (← openItems expr ((← size) + 1)))
  else return e

def assignStmt (p : Parts) : Parser Stmt := do
  let t ← target true
  if ← matchesNext fun t => t.isBlockEnd || t.isMark "|" then
    let line ← lastLine
    let filters ←
      if ← skipMark "|" then filterChain p.nested ((← size) + 1) none
      else pure (.captured line)
    endOfBlock
    let body ← p.body ["endset"]
    let _ ← next
    return .assignBlock t filters body
  else
    expect (Token.isMark "=") "assignment operator"
    return .assign t (← assignedValue p.expr)

def filterStmt (p : Parts) : Parser Stmt := do
  let filters ← filterChain p.nested ((← size) + 1) none
  endOfBlock
  let body ← p.body ["endfilter"]
  let _ ← next
  return .filterBlock filters body

/-- Parameters up to the closing bracket. Behind one with a default value all have one. -/
def parameterList (p : Parts) : (fuel : Nat) → (isFirst withDefault : Bool) →
    Parser (List (String × Option Expr))
  | 0, _, _ => return []
  | fuel + 1, isFirst, withDefault => do
    if ← skipMark ")" then return []
    else
      if !isFirst then expectMark ","
      if ← (if isFirst then pure false else skipMark ")") then return []
      else
        let x ← targetName
        if ← skipMark "=" then
          let e ← p.expr
          return (x, some e) :: (← parameterList p fuel false true)
        else if withDefault then
          expectMark "="
          return (x, none) :: (← parameterList p fuel false true)
        else return (x, none) :: (← parameterList p fuel false false)

def inProcedure {α : Type} (p : Parser α) : Parser α := fun s =>
  match p { s with inProcedure := true } with
  | .error e => .error e
  | .ok (a, t) => .ok (a, { t with inProcedure := s.inProcedure })

def procedureBody (p : Parts) (last : String) : Parser (List Stmt) := do
  endOfBlock
  let body ← inProcedure (p.body [last])
  let _ ← next
  return body

def defineStmt (p : Parts) : Parser Stmt := do
  let x ← identifier
  expectMark "("
  let ps ← parameterList p ((← size) + 1) true false
  let body ← procedureBody p "endmacro"
  return .define x (ps.map (·.1)) (ps.filterMap (·.2)) body

def callExpr (p : Parts) : Parser Expr := do
  let e ← p.expr
  match e with
  | .call .. => return e
  | e => fail (.noCall e.describe)

/-- The call with one more argument: what the block hands over. -/
def handedOver : Expr → Expr
  | .call line callee args roles =>
    .call line callee (args ++ [.captured line]) (roles ++ [.named "caller"])
  | e => e

def callStmt (p : Parts) : Parser Stmt := do
  let ps ← if ← skipMark "(" then parameterList p ((← size) + 1) true false else pure []
  let call ← callExpr p
  let body ← procedureBody p "endcall"
  return .callBlock (handedOver call) (ps.map (·.1)) (ps.filterMap (·.2)) body

def autoescapeStmt (p : Parts) : Parser Stmt := do
  let e ← p.expr
  endOfBlock
  let body ← p.body ["endautoescape"]
  let _ ← next
  return .autoescape e body

def nameBlock (x : String) : Parser Unit := fun s =>
  if s.blocks.contains x then fail (.blockTwice x) s
  else .ok ((), { s with blocks := x :: s.blocks })

def repeatedName (x : String) : Parser Unit := do
  match ← peek with
  | some (.ident y) => if y = x then advance else fail (.blockMismatch y x)
  | _ => return ()

def blockStmt (p : Parts) : Parser Stmt := do
  let line ← lastLine
  if ← fun s => .ok (s.inProcedure, s) then fail .blockInMacro
  let x ← identifier
  nameBlock x
  endOfBlock
  let body ← p.body ["endblock"]
  let _ ← next
  repeatedName x
  return .block line x body

/-- Whether the other template sees the names of this one. This has no meaning any more. -/
def contextClause : Parser Unit := do
  if ← skipIf fun t => t.isIdent "without" || t.isIdent "with" then
    expect (Token.isIdent "context") "missing keyword"

def includeStmt (p : Parts) : Parser Stmt := do
  let line ← lastLine
  let e ← p.expr
  contextClause
  if ← skipIdent "ignore" then
    expect (Token.isIdent "missing") "missing keyword"
    contextClause
    return .inclusion line e true
  else return .inclusion line e false

def importStmt (p : Parts) : Parser Stmt := do
  let line ← lastLine
  let e ← p.expr
  expect (Token.isIdent "as") "as"
  let x ← targetName
  contextClause
  return .importAll line e x

def importedNames : (fuel : Nat) → (isFirst : Bool) → Parser (List (String × String))
  | 0, _ => return []
  | fuel + 1, isFirst => do
    if ← matchesNext endsImport then return []
    else
      if !isFirst then expect (Token.isMark ",") "comma"
      if ← matchesNext endsImport then return []
      else
        let x ← targetName
        let y ← if ← skipIdent "as" then targetName else pure x
        return (x, y) :: (← importedNames fuel false)
where
  endsImport (t : Token) : Bool :=
    t.isBlockEnd || t.isIdent "without" || t.isIdent "with"

def fromStmt (p : Parts) : Parser Stmt := do
  let line ← lastLine
  let e ← p.expr
  expect (Token.isIdent "import") "import"
  let names ← importedNames ((← size) + 1) true
  contextClause
  return .importSome line e names

def statement (p : Parts) : Parser Stmt := do
  match ← next with
  | none => fail (.unexpectedEnd "block keyword")
  | some (.ident x) =>
    match x with
    | "for" => loopStmt p
    | "if" => condition p ((← size) + 1)
    | "with" => scopeStmt p
    | "set" => assignStmt p
    | "filter" => filterStmt p
    | "macro" => defineStmt p
    | "call" => callStmt p
    | "do" => .perform <$> callExpr p
    | "autoescape" => autoescapeStmt p
    | "block" => blockStmt p
    | "extends" => return .basedOn (← lastLine) (← p.expr)
    | "include" => includeStmt p
    | "import" => importStmt p
    | "from" => fromStmt p
    | _ => fail (.unknownStatement x)
  | some t => fail (.noStatement t.describe)

def endsBody (names : List String) : Token → Bool
  | .ident x => names.contains x
  | _ => false

/-- Statements up to a tag with one of the names, whose opening delimiter is read, or up to the
end. -/
def bodyItems (expr : Parser Expr) (stmt : Parser Stmt) (names : List String) :
    (fuel : Nat) → Parser (List Stmt)
  | 0 => return []
  | fuel + 1 => do
    match ← next with
    | none => return []
    | some (.data cs) => return .text cs :: (← bodyItems expr stmt names fuel)
    | some .outputStart =>
      let e ← expr
      expect Token.isOutputEnd "end of variable block"
      return .output e :: (← bodyItems expr stmt names fuel)
    | some .blockStart =>
      match ← peek with
      | none => fail (.unexpectedEnd "keyword")
      | some t =>
        if endsBody names t then return []
        else
          let s ← stmt
          endOfBlock
          return s :: (← bodyItems expr stmt names fuel)
    | some t => fail (.unexpected t.describe none)

def nestedAt (depth : Nat) : Nested where
  expr := fun s => expressionAt depth true s
  bracketed := some fun s => expressionAt (depth - 1) true s

def bodyAt : (depth : Nat) → List String → Stream → Except LocatedFault (List Stmt × Stream)
  | 0, names, s =>
    bodyItems (fun s => expressionAt 0 true s) (fail .tooDeep) names (s.rest.length + 1) s
  | depth + 1, names, s =>
    let parts : Parts := {
      expr := fun s => expressionAt depth true s
      plain := fun s => expressionAt (depth + 1) false s
      nested := nestedAt depth
      body := fun names s => bodyAt depth names s }
    bodyItems (fun s => expressionAt (depth + 1) true s) (statement parts) names
      (s.rest.length + 1) s

def depthLimit : Nat := 150

end Parser

def parse (source : List Char) : Except LocatedFault (List Stmt) :=
  let scan := tokens source
  let start : Stream := { rest := scan.tokens, last := 1, fault := scan.fault }
  (Parser.bodyAt Parser.depthLimit [] start).map (·.1)

end BeanDoc.Template
