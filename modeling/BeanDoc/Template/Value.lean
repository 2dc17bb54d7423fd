import BeanDoc.Template.Double
import BeanDoc.Template.Fault
import BeanDoc.Text.Quoted

/-! The values of the template language, their types, their truth, and how they are printed. -/

namespace BeanDoc.Template

/-- What a list of items is: one that was written or built as a list, one that is only made when it
is gone through, or a group, which consists of its key and the list of its members. -/
inductive Shape where
  | sequence
  | iterator
  | group
  deriving DecidableEq, Repr

/-- Whether a text is safe: then it is printed as it is also where other texts are escaped. -/
inductive TextForm where
  | plain
  | safe
  deriving DecidableEq, Repr

/-- What a map is: one that was written or built as a map, the named arguments of a call, or a
namespace with its number, whose entries can be assigned to. -/
inductive MapForm where
  | plain
  | arguments
  | shared (id : Nat)
  deriving DecidableEq, Repr

inductive Builtin where
  | range
  | dict
  | newNamespace
  deriving DecidableEq, Repr

def Builtin.path : Builtin → String
  | range => "minijinja::functions::builtins::range"
  | dict => "minijinja::functions::builtins::dict"
  | newNamespace => "minijinja::functions::builtins::namespace"

/-- How an integer is kept: without a sign, if it was written or counted; with a sign, if it was
calculated; or with a sign in 128 bits, if it was converted. The first two take 64 bits if these
suffice, and otherwise 128. -/
inductive IntForm where
  | unsigned
  | signed
  | converted
  deriving DecidableEq, Repr

def IntForm.greatest (i : Int) : IntForm → Int
  | unsigned => Decimal.wordCount (if i < Decimal.wordCount 64 then 64 else 128) - 1
  | signed => Decimal.greatestSigned (if Decimal.fitsSigned 64 i then 64 else 128)
  | converted => Decimal.greatestSigned 128

/-- The double that an integer is converted to without loss. It is checked by converting back, which
stops at the greatest integer. -/
def IntForm.exactDouble? (form : IntForm) (i : Int) : Option Double :=
  let x := floatOfInt i
  if (truncate? x).map (min (form.greatest i)) = some i then some (.number x) else none

inductive Value where
  | undefined
  | none
  | bool (b : Bool)
  | int (form : IntForm) (i : Int)
  | float (x : Double)
  | string (s : String) (form : TextForm := .plain)
  | list (shape : Shape) (items : List Value)
  /-- Items that come again so often, and are only gone through when that is needed. -/
  | repeated (items : List Value) (times : Nat)
  /-- Entries are sorted by their key. -/
  | map (form : MapForm) (entries : List (Value × Value))
  /-- A definition of the template, by its number; `callable` says that it uses a caller. -/
  | procedure (id : Nat) (name : String) (parameters : List String) (callable : Bool)
  | function (f : Builtin)
  /-- The state of a loop: its number, its position, its length if that is known, its depth, and
  the items before and after the current one. -/
  | loop (id index : Nat) (length : Option Nat) (depth : Nat) (before after : Option Value)
  deriving Inhabited

namespace Value

def kind : Value → Kind
  | undefined => .undefined
  | none => .none
  | bool _ => .bool
  | int .. => .number
  | float _ => .number
  | string .. => .string
  | list .sequence _ => .sequence
  | list .iterator _ => .iterator
  | list .group _ => .sequence
  | repeated .. => .iterator
  | map .. => .map
  | procedure .. => .map
  | function _ => .object
  | loop .. => .map

def isObject (v : Value) : Bool :=
  match v.kind with
  | .sequence | .iterator | .map | .object => true
  | _ => false

def seq (items : List Value) : Value :=
  list .sequence items

def ofInt (i : Int) : Value :=
  int .signed i

def ofNat (n : Nat) : Value :=
  int .unsigned n

def isUndefined : Value → Bool
  | undefined => true
  | _ => false

/-- Undefined or none: an optional argument with such a value counts as missing. -/
def isAbsent : Value → Bool
  | undefined => true
  | none => true
  | _ => false

def isTrue : Value → Bool
  | undefined => false
  | none => false
  | bool b => b
  | int _ i => i != 0
  | float x => !x.isZero
  | string s _ => !s.isEmpty
  | list _ items => !items.isEmpty
  | repeated items times => !items.isEmpty && times != 0
  | map _ entries => !entries.isEmpty
  | procedure .. => true
  | function _ => true
  | loop .. => true

def floatFormat : Decimal.FloatFormat := {}

def nestedFloatFormat : Decimal.FloatFormat where
  least := some (-4)
  greatest := some 15

mutual

def nested : Value → String
  | undefined => "undefined"
  | none => "None"
  | bool b => if b then "True" else "False"
  | int _ i => toString i
  | float x => nestedFloatFormat.render x.toFloat
  | string s _ => Text.quoted s
  | list _ [] => "[]"
  | list _ (v :: vs) => "[" ++ nested v ++ nestedItems vs ++ "]"
  | repeated _ 0 => "[]"
  | repeated [] _ => "[]"
  | repeated (v :: vs) (n + 1) =>
    let first := nested v ++ nestedItems vs
    "[" ++ Nat.repeat (· ++ ", " ++ first) n first ++ "]"
  | map _ [] => "\x7b\x7d"
  | map _ ((k, v) :: es) => "\x7b" ++ nested k ++ ": " ++ nested v ++ nestedEntries es ++ "\x7d"
  | procedure _ name _ _ => "<macro " ++ name ++ ">"
  | function f => f.path
  | loop _ index length _ _ _ =>
    let total := match length with | some n => toString n | Option.none => "?"
    "<loop " ++ toString index ++ "/" ++ total ++ ">"

def nestedItems : List Value → String
  | [] => ""
  | v :: vs => ", " ++ nested v ++ nestedItems vs

def nestedEntries : List (Value × Value) → String
  | [] => ""
  | (k, v) :: es => ", " ++ nested k ++ ": " ++ nested v ++ nestedEntries es

end

def print : Value → String
  | undefined => ""
  | float x => floatFormat.render x.toFloat
  | string s _ => s
  | v => nested v

mutual

def pretty (padding : String) : Value → String
  | list _ (v :: vs) => "[\n" ++ prettyItems (padding ++ "    ") (v :: vs) ++ padding ++ "]"
  | repeated (v :: vs) (n + 1) =>
    let round := prettyItems (padding ++ "    ") (v :: vs)
    "[\n" ++ Nat.repeat (· ++ round) n round ++ padding ++ "]"
  | map _ (e :: es) =>
    "\x7b\n" ++ prettyEntries (padding ++ "    ") (e :: es) ++ padding ++ "\x7d"
  | v => nested v

def prettyItems (padding : String) : List Value → String
  | [] => ""
  | v :: vs => padding ++ pretty padding v ++ ",\n" ++ prettyItems padding vs

def prettyEntries (padding : String) : List (Value × Value) → String
  | [] => ""
  | (k, v) :: es =>
    padding ++ pretty padding k ++ ": " ++ pretty padding v ++ ",\n" ++ prettyEntries padding es

end

def escapeChar : Char → List Char
  | '<' => "&lt;".toList
  | '>' => "&gt;".toList
  | '&' => "&amp;".toList
  | '"' => "&quot;".toList
  | '\'' => "&#x27;".toList
  | '/' => "&#x2f;".toList
  | c => [c]

def escaped : Value → String
  | string s .safe => s
  | v =>
    match v.kind with
    | .undefined | .none | .bool | .number => v.print
    | _ => String.ofList (v.print.toList.flatMap escapeChar)

def isSafe : Value → Bool
  | string _ .safe => true
  | _ => false

def loopAttributes (index : Nat) (length : Option Nat) (depth : Nat) (before after : Option Value) :
    List (String × Value) :=
  let known (f : Nat → Nat) : Value := (length.map fun n => ofNat (f n)).getD undefined
  [("index0", ofNat index),
    ("index", ofNat (index + 1)),
    ("length", known id),
    ("revindex", known (· - index)),
    ("revindex0", known (· - index - 1)),
    ("first", bool (index == 0)),
    ("last", bool (length.any fun n => n == 0 || index == n - 1)),
    ("depth", ofNat (depth + 1)),
    ("depth0", ofNat depth),
    ("previtem", before.getD undefined),
    ("nextitem", after.getD undefined)]

def procedureAttributes (name : String) (parameters : List String) (callable : Bool) :
    List (String × Value) :=
  [("name", string name),
    ("arguments", seq (parameters.map fun x => string x)),
    ("caller", bool callable)]

def attributes : Value → List (String × Value)
  | loop _ index length depth before after => loopAttributes index length depth before after
  | procedure _ name parameters callable => procedureAttributes name parameters callable
  | _ => []

def attributeEntries (as : List (String × Value)) : List (Value × Value) :=
  as.map fun (x, v) => (string x, v)

def entries? : Value → Option (List (Value × Value))
  | map _ es => some es
  | loop i n l d b a => some (attributeEntries (loop i n l d b a).attributes)
  | procedure i n p c => some (attributeEntries (procedure i n p c).attributes)
  | _ => Option.none

end Value

end BeanDoc.Template
