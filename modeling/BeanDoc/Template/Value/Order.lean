import BeanDoc.Decimal.Word
import BeanDoc.Template.Value

/-! Equality and order of values. Values of different types are ordered by their types; numbers,
and truth values as numbers, are equal if they stand for the same number. Keys of maps are the same
if neither stands before the other. -/

namespace BeanDoc.Template

def fitsWide (i : Int) : Bool :=
  Decimal.fitsSigned 128 i

/-- The integer with 128 bits and a sign that has the same bits. -/
def wrapWide (i : Int) : Int :=
  let n := i % Decimal.wordCount 128
  if n < Decimal.wordCount 127 then n else n - Decimal.wordCount 128

namespace Value

def integer? : Value → Option Int
  | bool b => some (if b then 1 else 0)
  | int _ i => if fitsWide i then some i else Option.none
  | float x => x.integer?
  | _ => Option.none

def double? : Value → Option Double
  | bool b => some (.number (if b then 1 else 0))
  | int _ i => some (.ofInt i)
  | float x => some x
  | _ => Option.none

def exactDouble? : Value → Option Double
  | int form i => form.exactDouble? i
  | v => v.double?

inductive Pair where
  | ints (a b : Int)
  | floats (a b : Double)

def isLarge (form : IntForm) (i : Int) : Bool :=
  form = .unsigned && i ≥ Decimal.wordCount 64

/-- Two integers as integers with 128 bits and a sign. If both are kept without a sign in as many
bits, what does not fit keeps its bits. -/
def intPair? (f : IntForm) (i : Int) (g : IntForm) (j : Int) : Option Pair :=
  if isLarge f i && isLarge g j then some (.ints (wrapWide i) (wrapWide j))
  else if fitsWide i && fitsWide j then some (.ints i j)
  else Option.none

/-- The values as numbers of one type; with `exact` no integer may be rounded. -/
def pair? (exact : Bool) (a b : Value) : Option Pair :=
  let toDouble := if exact then exactDouble? else double?
  match a, b with
  | float x, b => (toDouble b).map (.floats x)
  | a, float y => (toDouble a).map (.floats · y)
  | int f i, int g j => intPair? f i g j
  | a, b =>
    match a.integer?, b.integer? with
    | some i, some j => some (.ints i j)
    | _, _ => Option.none

def orderIntFloat (form : IntForm) (i : Int) (x : Double) : Ordering :=
  match form.exactDouble? i with
  | some y => y.order x
  | Option.none => Double.orderInt i x

def orderScalars (a b : Value) : Ordering :=
  (compare a.kind.rank b.kind.rank).then <|
    match a, b with
    | int _ i, int _ j => compare i j
    | int form i, float x => orderIntFloat form i x
    | float x, int form i => (orderIntFloat form i x).swap
    | a, b =>
      match pair? true a b with
      | some (.ints i j) => compare i j
      | some (.floats x y) => x.order y
      | Option.none => .eq

def equalScalars (a b : Value) : Bool :=
  match a, b with
  | undefined, undefined => true
  | none, none => true
  | function f, function g => f == g
  | int _ i, int _ j => i == j
  | a, b =>
    match pair? true a b with
    | some (.ints i j) => i == j
    | some (.floats x y) => x.equal y
    | Option.none => false

def rounds {α : Type} (items : List α) (times : Nat) : List α :=
  if items.isEmpty then [] else (List.replicate times items).flatten

mutual

/-- The value with maps of their attributes in place of loops and definitions, and with all items of
lists. -/
def asData : Value → Value
  | list shape vs => list shape (asDataItems vs)
  | repeated vs n => list .iterator (rounds (asDataItems vs) n)
  | map form es => map form (asDataEntries es)
  | procedure _ name parameters callable =>
    map .plain (attributeEntries (procedureAttributes name parameters callable))
  | loop _ index length depth before after =>
    map .plain (attributeEntries
      (loopAttributes index length depth (asDataOption before) (asDataOption after)))
  | v => v

def asDataItems : List Value → List Value
  | [] => []
  | v :: vs => asData v :: asDataItems vs

def asDataEntries : List (Value × Value) → List (Value × Value)
  | [] => []
  | (k, v) :: es => (asData k, asData v) :: asDataEntries es

def asDataOption : Option Value → Option Value
  | some v => some (asData v)
  | Option.none => Option.none

end

mutual

def orderData : Value → Value → Ordering
  | string a _, string b _ => compare a b
  | list s as, list t bs =>
    (compare (list s []).kind.rank (list t []).kind.rank).then (orderItems as bs)
  | map _ as, map _ bs => orderEntries as bs
  | a, b => orderScalars a b

def orderItems : List Value → List Value → Ordering
  | [], [] => .eq
  | [], _ :: _ => .lt
  | _ :: _, [] => .gt
  | a :: as, b :: bs => (orderData a b).then (orderItems as bs)

def orderEntries : List (Value × Value) → List (Value × Value) → Ordering
  | [], [] => .eq
  | [], _ :: _ => .lt
  | _ :: _, [] => .gt
  | (k, a) :: as, (l, b) :: bs =>
    ((orderData k l).then (orderData a b)).then (orderEntries as bs)

end

def order (a b : Value) : Ordering :=
  if a.isObject && b.isObject then orderData a.asData b.asData else orderData a b

def lookupEntry (k : Value) : List (Value × Value) → Option Value
  | [] => Option.none
  | (l, w) :: es => if order k l = .eq then some w else lookupEntry k es

mutual

def equalData : Value → Value → Bool
  | string a _, string b _ => a == b
  | list _ as, list _ bs => equalItems as bs
  | map _ as, map _ bs => as.length == bs.length && equalEntries as bs
  | a, b => equalScalars a b

def equalItems : List Value → List Value → Bool
  | [], [] => true
  | a :: as, b :: bs => equalData a b && equalItems as bs
  | _, _ => false

def equalEntries : List (Value × Value) → List (Value × Value) → Bool
  | [], _ => true
  | (k, a) :: as, bs =>
    (match lookupEntry k bs with
      | some b => equalData a b
      | Option.none => false) && equalEntries as bs

end

def equal (a b : Value) : Bool :=
  if a.isObject && b.isObject then equalData a.asData b.asData else equalData a b

def insertEntry (k v : Value) : List (Value × Value) → List (Value × Value)
  | [] => [(k, v)]
  | (l, w) :: es =>
    match order k l with
    | .lt => (k, v) :: (l, w) :: es
    -- an entry with an equal key keeps its key
    | .eq => (l, v) :: es
    | .gt => (l, w) :: insertEntry k v es

/-- Entries sorted by their key; of several with one key the last counts. -/
def sortEntries (es : List (Value × Value)) : List (Value × Value) :=
  es.foldl (fun sorted (k, v) => insertEntry k v sorted) []

def ofEntries (es : List (Value × Value)) : Value :=
  map .plain (sortEntries es)

def contents? : Value → Option (List Value)
  | list _ items => some items
  | repeated items n => some (rounds items n)
  | v => v.entries?.map fun es => es.map (·.1)

def characters (s : String) : List Value :=
  s.toList.map fun c => string (String.ofList [c])

def iterate : Value → Except EvalFault (List Value)
  | undefined => .ok []
  | none => .ok []
  | string s _ => .ok (characters s)
  | v =>
    match v.contents? with
    | some items => .ok items
    | Option.none => .error (.notIterable v.kind)

def length? : Value → Option Nat
  | string s _ => some s.length
  | list _ items => some items.length
  | repeated items n => some (items.length * n)
  | v => v.entries?.map List.length

end Value

end BeanDoc.Template
