import BeanDoc.Template.Parser.Basic
import BeanDoc.Template.Tree.Constant

/-! Reading expressions. From loosest to tightest: the conditional, `or`, `and`, `not`, comparisons,
sums, `~`, products, powers, the minus sign, and then attributes, items, calls, filters and
tests. -/

namespace BeanDoc.Template

namespace Parser

/-- The readers of expressions inside others: of arguments and indices, and of those in brackets,
which may be nested too deep. -/
structure Nested where
  expr : Parser Expr
  bracketed : Option (Parser Expr)

def items (expr : Parser Expr) (close : String) : (fuel : Nat) → (isFirst : Bool) →
    Parser (List Expr)
  | 0, _ => return []
  | fuel + 1, isFirst => do
    if ← skipMark close then return []
    else
      if !isFirst then expectMark ","
      if ← (if isFirst then pure false else skipMark close) then return []
      else
        let e ← expr
        return e :: (← items expr close fuel false)

def entries (expr : Parser Expr) : (fuel : Nat) → (isFirst : Bool) → Parser (List Expr)
  | 0, _ => return []
  | fuel + 1, isFirst => do
    if ← skipMark "\x7d" then return []
    else
      if !isFirst then expectMark ","
      if ← (if isFirst then pure false else skipMark "\x7d") then return []
      else
        let k ← expr
        expectMark ":"
        let v ← expr
        return k :: v :: (← entries expr fuel false)

structure CallArguments where
  values : List Expr := []
  roles : List Role := []

def CallArguments.ofList (args : List (Role × Expr)) : CallArguments :=
  let ordered := args.filter (!·.1.isNamed) ++ args.filter (·.1.isNamed)
  ⟨ordered.map (·.2), ordered.map (·.1)⟩

def CallArguments.endLine (line : Nat) (a : CallArguments) : Nat :=
  let args := a.roles.zip a.values
  let named := args.filter (·.1.isNamed)
  let line := endLineOf line ((args.filter (!·.1.isNamed)).map (·.2))
  -- named arguments that are all literals do not count
  if named.all fun (role, e) => role != .spreadNamed && e.written?.isSome then line
  else endLineOf line (named.map (·.2))

def argumentRole : Parser Role := do
  if ← skipMark "**" then return .spreadNamed
  else if ← skipMark "*" then return .spread
  else return .positional

/-- An argument. None without a name may follow one with a name, unless it is spread out. -/
def argument (n : Nested) (named : Bool) : Parser (Role × Expr) := do
  match ← argumentRole with
  | .positional =>
    let e ← n.expr
    match e with
    | .name _ x =>
      if ← skipMark "=" then return (.named x, ← n.expr)
      else if named then fail .positionalAfterNamed
      else return (.positional, e)
    | _ => if named then fail .positionalAfterNamed else return (.positional, e)
  | role => return (role, ← n.expr)

def argumentLimit : Nat := 2000

def argumentList (n : Nested) : (fuel : Nat) → (count : Nat) → (named : Bool) →
    Parser (List (Role × Expr))
  | 0, _, _ => return []
  | fuel + 1, count, named => do
    if ← skipMark ")" then return []
    else
      if count > 0 then expectMark ","
      if ← (if count = 0 then pure false else skipMark ")") then return []
      else
        let arg ← argument n named
        if count ≥ argumentLimit then fail .tooManyArguments
        else return arg :: (← argumentList n fuel (count + 1) (named || arg.1.isNamed))

def arguments (n : Nested) : Parser CallArguments := do
  expectMark "("
  return .ofList (← argumentList n ((← size) + 1) 0 false)

def optionalArguments (n : Nested) : Parser CallArguments := do
  if ← matchesNext (Token.isMark "(") then arguments n else return {}

def tupleItems (expr : Parser Expr) : (fuel : Nat) → Parser (List Expr)
  | 0 => return []
  | fuel + 1 => do
    if ← skipMark ")" then return []
    else
      expectMark ","
      if ← skipMark ")" then return []
      else
        let e ← expr
        return e :: (← tupleItems expr fuel)

def bracketed (line : Nat) (expr : Parser Expr) : Parser Expr := do
  if ← skipMark ")" then return .ofItems line []
  else
    let e ← expr
    if ← matchesNext (Token.isMark ",") then
      let es ← tupleItems expr ((← size) + 1)
      return .ofItems line (e :: es)
    else
      expectMark ")"
      return e

def textRest : (fuel : Nat) → Parser String
  | 0 => return ""
  | fuel + 1 => do
    match ← peek with
    | some (.text s _) =>
      advance
      return s ++ (← textRest fuel)
    | _ => return ""

def primary (n : Nested) : Parser Expr := do
  match n.bracketed with
  | none => fail .tooDeep
  | some expr =>
    let line ← peekLine
    match ← next with
    | none => fail (.unexpectedEnd "expression")
    | some (.ident x) =>
      match x with
      | "true" | "True" => return .literal line (.bool true)
      | "false" | "False" => return .literal line (.bool false)
      | "none" | "None" => return .literal line .none
      | _ => return .name line x
    | some (.text s escaped) =>
      if !escaped then endAtFault
      return .literal line (.string (s ++ (← textRest ((← size) + 1))))
    | some (.int i) => return .literal line (.ofNat i)
    | some (.float x) => return .literal line (.float (.number x))
    | some (.mark "(") => bracketed line expr
    | some (.mark "[") =>
      let es ← items expr "]" ((← size) + 1) true
      return .ofItems line es
    | some (.mark "\x7b") =>
      let es ← entries expr ((← size) + 1) true
      return .ofEntries line es
    | some t => fail (.unexpected t.describe none)

def negated (n : Nested) : (fuel : Nat) → Parser Expr
  | 0 => primary n
  | fuel + 1 => do
    let line ← peekLine
    if ← skipMark "-" then return .negated line (← negated n fuel) else primary n

def sliceBounds (n : Nested) : Parser (Option Expr × Option Expr) := do
  let stop ←
    if ← matchesNext (fun t => t.isMark "]" || t.isMark ":") then pure none
    else some <$> n.expr
  if ← skipMark ":" then
    if ← matchesNext (Token.isMark "]") then return (stop, none)
    else return (stop, some (← n.expr))
  else return (stop, none)

def subscript (n : Nested) (e : Expr) : Parser Expr := do
  let start ← if ← matchesNext (Token.isMark ":") then pure none else some <$> n.expr
  if ← skipMark ":" then
    let (stop, step) ← sliceBounds n
    expectMark "]"
    let line := endLineOf e.endLine (start.toList ++ stop.toList ++ step.toList)
    let absent := Expr.literal line .none
    return .slice line e (start.getD absent) (stop.getD absent) (step.getD absent)
  else
    expectMark "]"
    match start with
    | some key => return .item key.endLine e key
    | none => return e

def postfixes (n : Nested) (start : Nat) : (fuel : Nat) → Expr → Parser Expr
  | 0, e => return e
  | fuel + 1, e => do
    if ← skipMark "." then
      match ← next with
      | some (.ident x) => postfixes n start fuel (.member e.endLine e x)
      | some (.int i) =>
        let line ← lastLine
        postfixes n start fuel (.item line e (.literal line (.ofNat i)))
      | some t => fail (.unexpected t.describe (some "identifier or integer"))
      | none => fail (.unexpectedEnd "identifier or integer")
    else if ← skipMark "[" then
      postfixes n start fuel (← subscript n e)
    else if ← matchesNext (Token.isMark "(") then
      let a ← arguments n
      let line :=
        match e with
        | .name .. => start
        | .member _ inner _ => inner.endLine
        | e => e.endLine
      postfixes n start fuel (.call (a.endLine line) e a.values a.roles)
    else return e

def operand (n : Nested) : Parser Expr := do
  let start ← peekLine
  let e ← negated n ((← size) + 1)
  postfixes n start ((← size) + 1) e

def startsArgument : Token → Bool
  | .ident x => x != "and" && x != "or" && x != "else" && x != "is"
  | .text .. | .int _ | .float _ => true
  | .mark s => s == "+" || s == "-" || s == "[" || s == "\x7b"
  | _ => false

def testArguments (n : Nested) : Parser CallArguments := do
  if ← matchesNext (Token.isMark "(") then arguments n
  else if ← matchesNext startsArgument then return .ofList [(.positional, ← operand n)]
  else return {}

def filters (n : Nested) : (fuel : Nat) → Expr → Parser Expr
  | 0, e => return e
  | fuel + 1, e => do
    if ← skipMark "|" then
      let x ← dottedName
      let a ← optionalArguments n
      filters n fuel (.filter (a.endLine e.endLine) x e a.values a.roles)
    else if ← skipIdent "is" then
      let inverted ← skipIdent "not"
      let x ← dottedName
      let a ← testArguments n
      let test := Expr.test (a.endLine e.endLine) x e a.values a.roles
      filters n fuel (if inverted then .not test else test)
    else return e

def unary (n : Nested) : Parser Expr := do
  let e ← operand n
  filters n ((← size) + 1) e

/-- An operator: how it combines two operands, of which the first starts on the given line. -/
abbrev Combine := (line : Nat) → Expr → Expr → Expr

def chain (sub : Parser Expr) (op? : Token → Option Combine) (line : Nat) :
    (fuel : Nat) → Expr → Parser Expr
  | 0, e => return e
  | fuel + 1, e => do
    match (← peek).bind op? with
    | none => return e
    | some combine =>
      advance
      let r ← sub
      chain sub op? line fuel (combine line e r)

def level (sub : Parser Expr) (op? : Token → Option Combine) : Parser Expr := do
  let line ← peekLine
  let e ← sub
  chain sub op? line ((← size) + 1) e

def markOp (ops : List (String × BinaryOp)) : Token → Option Combine
  | .mark s => (ops.lookup s).map fun op line => Expr.combined line op
  | _ => none

def wordOp (word : String) (combine : Combine) : Token → Option Combine
  | .ident x => if x == word then some combine else none
  | _ => none

def power (n : Nested) : Parser Expr :=
  level (unary n) (markOp [("**", .pow)])

def product (n : Nested) : Parser Expr :=
  level (power n) (markOp [("*", .mul), ("/", .div), ("//", .floorDiv), ("%", .rem)])

def concatenation (n : Nested) : Parser Expr :=
  level (product n) (markOp [("~", .concat)])

def sum (n : Nested) : Parser Expr :=
  level (concatenation n) (markOp [("+", .add), ("-", .sub)])

def comparisonOf? : Token → Option Comparison
  | .ident "in" => some .within
  | .mark "==" => some .eq
  | .mark "!=" => some .ne
  | .mark "<" => some .lt
  | .mark "<=" => some .le
  | .mark ">" => some .gt
  | .mark ">=" => some .ge
  | _ => none

def comparisonOp : Parser (Option Comparison) := do
  if ← skipIdent "not" then
    expect (Token.isIdent "in") "in"
    return some .without
  else
    match (← peek).bind comparisonOf? with
    | none => return none
    | some op =>
      advance
      return some op

def comparisons (sub : Parser Expr) : (fuel : Nat) → Parser (List (Comparison × Expr))
  | 0 => return []
  | fuel + 1 => do
    match ← comparisonOp with
    | none => return []
    | some op =>
      let r ← sub
      return (op, r) :: (← comparisons sub fuel)

def comparison (n : Nested) : Parser Expr := do
  let line ← lastLine
  let e ← sum n
  match ← comparisons (sum n) ((← size) + 1) with
  | [] => return e
  | cs => return .compared line (cs.map (·.1)) e (cs.map (·.2))

def negation (n : Nested) : (fuel : Nat) → Parser Expr
  | 0 => comparison n
  | fuel + 1 => do
    let line ← peekLine
    if ← skipIdent "not" then return .inverted line (← negation n fuel) else comparison n

def negations (n : Nested) : Parser Expr := do
  negation n ((← size) + 1)

def conjunction (n : Nested) : Parser Expr :=
  level (negations n) (wordOp "and" Expr.conjunction)

def disjunction (n : Nested) : Parser Expr :=
  level (conjunction n) (wordOp "or" Expr.disjunction)

/-- Conditionals behind an expression. Without `else` the other value is undefined. -/
def conditionals (sub : Parser Expr) : (fuel : Nat) → Expr → Parser Expr
  | 0, e => return e
  | fuel + 1, e => do
    if ← skipIdent "if" then
      let test ← sub
      if ← skipIdent "else" then
        let no ← conditionals sub fuel (← sub)
        conditionals sub fuel (.choose no.endLine test e no)
      else conditionals sub fuel (.choose e.endLine test e (.literal e.endLine .undefined))
    else return e

def conditional (n : Nested) : Parser Expr := do
  let e ← disjunction n
  conditionals (disjunction n) ((← size) + 1) e

/-- Reads an expression that may be nested so deep; with `whole` it may be a conditional. An
expression in brackets is nested by two, any other by one. -/
def expressionAt : (depth : Nat) → (whole : Bool) → Stream → Except LocatedFault (Expr × Stream)
  | 0, _, s => .error (.tooDeep, s.last)
  | 1, whole, s =>
    let n : Nested := ⟨fail .tooDeep, none⟩
    if whole then conditional n s else disjunction n s
  | depth + 2, whole, s =>
    let n : Nested := {
      expr := fun s => expressionAt (depth + 1) true s
      bracketed := some fun s => expressionAt depth true s }
    if whole then conditional n s else disjunction n s

end Parser

end BeanDoc.Template
