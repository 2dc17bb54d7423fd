import BeanDoc.Decimal.Reader
import BeanDoc.Template.Arguments
import BeanDoc.Template.Value.Access
import BeanDoc.Template.Value.Arithmetic
import BeanDoc.Text.Blank
import BeanDoc.Text.Letter
import BeanDoc.Text.Split

/-! The filters of single values. A filter that works on text takes any value as it is printed. -/

namespace BeanDoc.Template

namespace Filter

open Arguments

/-- The parts between the occurrences of a pattern. The empty pattern occurs around every
character. With a limit the last part is all that is left. -/
def splitParts (pattern : List Char) : (fuel : Nat) → (limit : Option Nat) → List Char →
    List (List Char)
  | 0, _, cs => [cs]
  | fuel + 1, limit, cs =>
    if limit = some 0 then []
    else if limit = some 1 then [cs]
    else
      match Text.cut? pattern cs with
      | some (lead, rest) => lead :: splitParts pattern fuel (limit.map (· - 1)) rest
      | none => [cs]

def splitEverywhere (limit : Option Nat) (cs : List Char) : List (List Char) :=
  let parts := [] :: cs.map (fun c => [c]) ++ [[]]
  match limit with
  | none => parts
  | some 0 => []
  | some (n + 1) => if parts.length ≤ n + 1 then parts else parts.take n ++ [cs.drop (n - 1)]

def splitText (pattern : List Char) (limit : Option Nat) (cs : List Char) : List (List Char) :=
  if pattern.isEmpty then splitEverywhere limit cs
  else splitParts pattern (cs.length + 1) limit cs

/-- The words between white space, so many at most; behind them all that is left is one part, also
if it is only white space. -/
def splitBlanks : (limit : Nat) → List Char → List (List Char)
  | limit, cs =>
    match cs.dropWhile Text.isBlank, limit with
    | [], _ => if cs.isEmpty then [] else [cs]
    | cs, 0 => [cs]
    | cs, limit + 1 =>
      match cs.dropWhile (!Text.isBlank ·) with
      | [] => [cs]
      | rest => cs.takeWhile (!Text.isBlank ·) :: splitBlanks limit rest

def replaceText (old new cs : List Char) : List Char :=
  Text.join new (splitText old none cs)

def isPunctuation (c : Char) : Bool :=
  0x21 ≤ c.toNat && c.toNat ≤ 0x7E && !c.isAlphanum

/-- Every word with a capital. `start` says that a word can start. -/
def titleFrom : (start : Bool) → List Char → List Char
  | _, [] => []
  | start, c :: cs =>
    if isPunctuation c || Text.isBlank c then c :: titleFrom true cs
    else if start then Text.upperChar c ++ titleFrom false cs
    else Text.lowerChar c ++ titleFrom false cs

def capitalizeText : List Char → List Char
  | [] => []
  | c :: cs => Text.upperChar c ++ Text.lower cs

def trimChars (chars cs : List Char) : List Char :=
  ((cs.dropWhile (chars.contains ·)).reverse.dropWhile (chars.contains ·)).reverse

def dropLineEnd (cs : List Char) : List Char :=
  let cs := (Text.before? ['\n'] cs).getD cs
  (Text.before? ['\r'] cs).getD cs

def indentText (width : Nat) (first blank : Bool) (cs : List Char) : List Char :=
  let space := List.replicate width ' '
  let indent (line : List Char) : List Char :=
    if line.isEmpty then (if blank then space else []) else space ++ line
  let lines :=
    match Text.pieces '\n' (dropLineEnd cs) with
    | [] => []
    | l :: ls => (if first then indent l else l) :: ls.map indent
  dropLineEnd (lines.flatMap (· ++ ['\n']))

def ofChars (cs : List Char) : Value :=
  .string (String.ofList cs)

def onText (f : List Char → List Char) (vs : List Value) : Except EvalFault Value := do
  let (s, vs) ← text vs
  finish vs
  return ofChars (f s.toList)

def onValue (f : Value → Except EvalFault Value) (vs : List Value) : Except EvalFault Value := do
  let (v, vs) ← required vs
  finish vs
  f v

def replace (vs : List Value) : Except EvalFault Value := do
  let (s, vs) ← text vs
  let (old, vs) ← text vs
  let (new, vs) ← text vs
  finish vs
  return ofChars (replaceText old.toList new.toList s.toList)

def trim (vs : List Value) : Except EvalFault Value := do
  let (s, vs) ← text vs
  let (chars, vs) ← optionalText vs
  finish vs
  return ofChars (match chars with
    | none => Text.trim s.toList
    | some chars => trimChars chars.toList s.toList)

def length (v : Value) : Except EvalFault Value :=
  match v.length? with
  | some n => .ok (.ofNat n)
  | none => .error (.noLength v.kind)

def default (vs : List Value) : Except EvalFault Value := do
  let (v, vs) ← required vs
  finish (vs.drop 2)
  if v.isUndefined || (vs[1]?.any Value.isTrue && !v.isTrue) then return vs.head?.getD (.string "")
  else return v

def first (v : Value) : Except EvalFault Value :=
  match v with
  | .string s _ => .ok ((Value.characters s).head?.getD .undefined)
  | .repeated items n => .ok (if n = 0 then .undefined else items.head?.getD .undefined)
  | v =>
    match v.contents? with
    | some items => .ok (items.head?.getD .undefined)
    | none => .error .noFirst

def last (v : Value) : Except EvalFault Value :=
  match v with
  | .string s _ => .ok ((Value.characters s).getLast?.getD .undefined)
  | .list _ items => .ok (items.getLast?.getD .undefined)
  | .repeated items n => .ok (if n = 0 then .undefined else items.getLast?.getD .undefined)
  | _ => .error .noLast

def reverse (v : Value) : Except EvalFault Value :=
  match v with
  | .undefined | .none => .ok v
  | .string s _ => .ok (ofChars s.toList.reverse)
  | v =>
    match v.contents? with
    | some items => .ok (.list .iterator items.reverse)
    | none => .error (.noReverse v.kind)

def joinValues (sep : String) (vs : List Value) : String :=
  sep.intercalate (vs.map Value.print)

def join (vs : List Value) : Except EvalFault Value := do
  let (v, vs) ← required vs
  let (sep, vs) ← optionalText vs
  finish vs
  if v.isAbsent then return .string ""
  else
    match v.iterate with
    | .ok items => return .string (joinValues (sep.getD "") items)
    | .error _ => throw (.noJoin v.kind)

def split (vs : List Value) : Except EvalFault Value := do
  let (v, vs) ← required vs
  let s ← textOnly v
  let (sep, vs) ← optionalAs textOnly vs
  let (count, vs) ← optionalAs (signedOf "i64" 64) vs
  finish vs
  let limit := count.bind fun i => if i < 0 then none else some i.toNat
  let cs := s.toList
  let parts :=
    match sep with
    | none =>
      match limit with
      | none => Text.words cs
      | some n => splitBlanks n cs
    | some sep => splitText sep.toList (limit.map (· + 1)) cs
  return .seq (parts.map ofChars)

def lines (v : Value) : Except EvalFault Value := do
  let s ← textOnly v
  return .seq ((Text.lines s.toList).map ofChars)

def listItems (v : Value) : Except EvalFault (List Value) :=
  match v.iterate with
  | .ok items => .ok items
  | .error _ => .error .noList

/-- The order of values in sorting: texts without regard to the case of ASCII letters, unless it
matters. -/
def sortOrder (caseMatters : Bool) (a b : Value) : Ordering :=
  match a, b with
  | .string s _, .string t _ =>
    if caseMatters then compare s t
    else
      let lower (s : String) := String.ofList (s.toList.map Char.toLower)
      compare (lower s) (lower t)
  | a, b => Value.order a b

/-- The index that a part of a path stands for: digits, in front of which a plus sign may stand. -/
def pathIndex? (part : List Char) : Option Nat :=
  let digits := match part with | '+' :: ds => ds | ds => ds
  if digits.isEmpty || !digits.all Char.isDigit then none
  else
    let n := Decimal.ofDigits digits
    if n < Decimal.wordCount 64 then some n else none

/-- The part of a value that a path with points stands for. There is none if the path leads on from
an undefined part. -/
def atPath? (path : List Char) (v : Value) : Option Value :=
  (Text.pieces '.' path).foldlM (fun v part =>
    if v.isUndefined then none
    else
      match pathIndex? part with
      | some n => some (v.item (.ofNat n))
      | none => some (v.member (String.ofList part))) v

def itemKey (path : Option String) (v : Value) : Value :=
  match path with
  | none => v
  | some path => (atPath? path.toList v).getD .undefined

/-- The keys by which an item is sorted: the item itself, or attributes of it, whose paths stand
between commas. -/
def sortKeys (paths : Option String) (v : Value) : List (Option Value) :=
  match paths with
  | none => [some v]
  | some paths => (Text.pieces ',' paths.toList).map fun path => atPath? (Text.trim path) v

def orderKeys (compare : Value → Value → Ordering) : List (Option Value) → List (Option Value) →
    Ordering
  | some a :: as, some b :: bs => (compare a b).then (orderKeys compare as bs)
  -- keys do not differ if one of them is missing
  | _ :: as, _ :: bs => orderKeys compare as bs
  | _, _ => .eq

/-- Puts an item behind those that it does not stand before. The list starts with its last item. -/
def insertLast {α : Type} (isBefore : α → α → Bool) (a : α) : List α → List α
  | [] => [a]
  | b :: bs => if isBefore a b then b :: insertLast isBefore a bs else a :: b :: bs

/-- The longest list that is sorted by inserting its items one after the other. -/
def insertionLimit : Nat := 20

def sortItems {α : Type} (isBefore : α → α → Bool) (items : List α) : List α :=
  -- with missing keys the order is not transitive, and how the items are inserted shows
  if items.length ≤ insertionLimit then
    (items.foldl (fun sorted a => insertLast isBefore a sorted) []).reverse
  else items.mergeSort fun a b => !isBefore b a

def sort (a : Arguments) : Except EvalFault Value := do
  let (v, vs) ← required a.positional
  finish vs
  let items ← listItems v
  let caseMatters ← a.option "case_sensitive" truthOf
  let descending ← a.option "reverse" truthOf
  let paths ← a.option "attribute" textOnly
  a.onlyOptions ["case_sensitive", "attribute", "reverse"]
  let compare (a b : Value) : Ordering :=
    orderKeys (sortOrder (caseMatters.getD false)) (sortKeys paths a) (sortKeys paths b)
  return .seq (sortItems (fun a b =>
    if descending.getD false then compare b a == .lt else compare a b == .lt) items)

def distinct (key : Value → Value) : (seen : List Value) → List Value → List Value
  | _, [] => []
  | seen, v :: vs =>
    let k := key v
    if seen.any fun s => Value.order s k == .eq then distinct key seen vs
    else v :: distinct key (k :: seen) vs

def foldCase : Value → Value
  | .string s _ => ofChars (Text.lower s.toList)
  | v => v

def unique (a : Arguments) : Except EvalFault Value := do
  let (v, vs) ← required a.positional
  finish vs
  let path ← a.option "attribute" textOnly
  let caseMatters ← a.option "case_sensitive" truthOf
  a.onlyOptions ["case_sensitive", "attribute"]
  let items ← v.iterate
  let key (v : Value) : Value :=
    let k := itemKey path v
    if caseMatters.getD false then k else foldCase k
  return .seq (distinct key [] items)

def least (items : List Value) : Value :=
  match items with
  | [] => .undefined
  | v :: vs => vs.foldl (fun m v => if Value.order v m == .lt then v else m) v

def greatest (items : List Value) : Value :=
  match items with
  | [] => .undefined
  | v :: vs => vs.foldl (fun m v => if Value.order v m == .lt then m else v) v

def sumItems : Value → List Value → Except EvalFault Value
  | total, [] => .ok total
  | total, .undefined :: vs => sumItems total vs
  | total, v :: vs =>
    if v.kind = .number then
      match Value.add total v with
      | .ok total => sumItems total vs
      | .error f => .error f
    else .error (.noSum v.kind)

def items (v : Value) : Except EvalFault Value :=
  match v.entries? with
  | some es => .ok (.list .iterator (es.map fun (k, v) => .seq [k, v]))
  | none => .error .noPairs

def abs (v : Value) : Except EvalFault Value :=
  match v with
  | .int form i =>
    if i = Decimal.leastSigned 128 then .error .absOverflow else .ok (.int form i.natAbs)
  | .float x => .ok (.float x.abs)
  | _ => .error .noAbs

def round (vs : List Value) : Except EvalFault Value := do
  let (v, vs) ← required vs
  let (places, vs) ← optionalAs (signedOf "i32" 32) vs
  finish vs
  match v with
  | .int .. => return v
  | .float x => return .float (x.round (places.getD 0))
  | v => throw (.noRound v.kind)

def parseFloat (s : String) : Except EvalFault Double :=
  match Decimal.float? s.toList with
  | some x => .ok (if x.isNaN then .notANumber (s.startsWith "-") else .number x)
  | none => .error (if s.isEmpty then .emptyFloat else .badFloat)

def parseInt (s : String) : Except EvalFault Int :=
  match Decimal.int? s.toList with
  | some i => if fitsWide i then .ok i else (parseFloat s).map (Double.saturate 128)
  | none => (parseFloat s).map (Double.saturate 128)

def int (v : Value) : Except EvalFault Value :=
  match v with
  | .undefined | .none => .ok (.ofInt 0)
  | .bool b => .ok (.ofInt (if b then 1 else 0))
  | .int .. => .ok v
  | .float x => .ok (.int .converted (x.saturate 128))
  | .string s _ => (parseInt s).map (.int .converted)
  | v => .error (.noInteger v.kind)

def float (v : Value) : Except EvalFault Value :=
  match v with
  | .undefined | .none => .ok (.float (.number 0))
  | .string s _ => (parseFloat s).map .float
  | v =>
    match v.double? with
    | some x => .ok (.float x)
    | none => .error (.noFloat v.kind)

def safe (vs : List Value) : Except EvalFault Value := do
  let (s, vs) ← text vs
  finish vs
  return .string s .safe

def escape (v : Value) : Except EvalFault Value :=
  .ok (.string v.escaped .safe)

def string (v : Value) : Except EvalFault Value :=
  match v with
  | .string .. => .ok v
  | v => .ok (.string v.print)

def attr (vs : List Value) : Except EvalFault Value := do
  let (v, vs) ← required vs
  let (key, vs) ← required vs
  finish vs
  if v.isUndefined then throw .undefinedValue else return v.item key

/-- Each of the settings is taken from a named argument if none is given by its position. -/
def indent (a : Arguments) : Except EvalFault Value := do
  let (s, vs) ← text a.positional
  let (width, vs) ← optionalAs sizeOf vs
  let (first, vs) ← optionalAs truthOf vs
  let (blank, vs) ← optionalAs truthOf vs
  finish vs
  let namedWidth ← if width.isNone then a.option "width" sizeOf else pure none
  let namedFirst ← if first.isNone then a.option "first" truthOf else pure none
  let namedBlank ← if blank.isNone then a.option "blank" truthOf else pure none
  a.onlyOptions ((if width.isNone then ["width"] else []) ++
    (if first.isNone then ["first"] else []) ++ (if blank.isNone then ["blank"] else []))
  return ofChars (indentText ((width.or namedWidth).getD 4) ((first.or namedFirst).getD false)
    ((blank.or namedBlank).getD false) s.toList)

end Filter

end BeanDoc.Template
