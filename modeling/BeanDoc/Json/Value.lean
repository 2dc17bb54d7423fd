import BeanDoc.Decimal.Shortest

/-! JSON values. An object is its list of members, in the order in which they were written unless
it was sorted. -/

namespace BeanDoc.Json

inductive Value where
  | null
  | bool (b : Bool)
  | int (i : Int)
  | float (x : Float)
  | string (s : String)
  | array (items : List Value)
  | object (members : List (String × Value))
  deriving Inhabited

/-- How doubles are written: those from `1e-5` on and below `1e16` without an exponent. -/
def floatFormat : Decimal.FloatFormat where
  least := some (-5)
  greatest := some 15
  plus := true
  tie := .toEven

def insertMember (name : String) (v : Value) : List (String × Value) → List (String × Value)
  | [] => [(name, v)]
  | (n, w) :: ms =>
    if name = n then (name, v) :: ms
    else if name < n then (name, v) :: (n, w) :: ms
    else (n, w) :: insertMember name v ms

/-- The members sorted by name. Of several with one name the last stays. -/
def sortMembers (ms : List (String × Value)) : List (String × Value) :=
  ms.foldl (fun sorted (n, v) => insertMember n v sorted) []

namespace Value

def text? : Value → Option String
  | string s => some s
  | _ => none

def bool? : Value → Option Bool
  | bool b => some b
  | _ => none

def items? : Value → Option (List Value)
  | array vs => some vs
  | _ => none

def members? : Value → Option (List (String × Value))
  | object ms => some ms
  | _ => none

/-- The member with the given name; `none` also for what is no object. -/
def get? (v : Value) (name : String) : Option Value :=
  v.members?.bind (·.lookup name)

def ofNat (n : Nat) : Value :=
  int n

def ofText? : Option String → Value
  | some s => string s
  | none => null

end Value

end BeanDoc.Json
