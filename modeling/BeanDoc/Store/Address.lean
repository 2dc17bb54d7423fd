import BeanDoc.Decimal.Reader
import BeanDoc.Decimal.Word
import BeanDoc.Store.Fault
import BeanDoc.Text.Blank
import BeanDoc.Text.HexDigit
import BeanDoc.Text.Octets
import BeanDoc.Text.Split

/-! Addresses of databases. White space around an address does not matter. An address that starts
with a scheme is a URI, with a path in which octets may be escaped, and with parameters that say how
the database is opened. -/

namespace BeanDoc

/-- How a database is opened: to be made if it is not there, only if it is there, to be read only,
or without a file. -/
inductive OpenMode where
  | create
  | existing
  | readOnly
  | memory
  deriving DecidableEq, Repr

namespace OpenMode

def ofName? : String → Option OpenMode
  | "rwc" => some create
  | "rw" => some existing
  | "ro" => some readOnly
  | "memory" => some memory
  | _ => none

def rights : OpenMode → Nat
  | memory => 0
  | readOnly => 1
  | existing => 2
  | create => 3

/-- Whether the mode may follow another. None may allow more than the one before it, but after a
database without a file anything goes. -/
def mayFollow (next before : OpenMode) : Bool :=
  before = memory || next.rights ≤ before.rights

end OpenMode

/-- What an address says: the file, or none for a database that lives no longer than its connection,
and how it is opened. -/
structure DatabaseAddress where
  file? : Option String
  mode : OpenMode := .create
  /-- Whether the database is taken for one that never changes. -/
  immutable : Bool := false
  /-- What has the access rights for a new file, if it is not left to the system. -/
  rightsOf? : Option String := none
  deriving DecidableEq, Repr

namespace DatabaseAddress

def scheme : String :=
  "sqlite://"

def fileScheme : String :=
  "file:"

def normalScheme (url : List Char) : List Char :=
  match Text.after? scheme.toList url with
  | some rest => fileScheme.toList ++ rest
  | none => url

def withoutAuthority (uri : List Char) : Except ConnectionFault (List Char) :=
  match Text.after? ['/', '/'] uri with
  | none => .ok uri
  | some rest =>
    let (authority, path) := rest.span (· ≠ '/')
    if authority.isEmpty || authority = "localhost".toList then .ok path else .error .badAddress

def nulPosition? (url : List Char) : Option Nat :=
  let (lead, rest) := url.span (· ≠ '\x00')
  if rest.isEmpty then none else some (String.ofList lead).utf8ByteSize

/-- The parameters of a URI. One without a name does not count, and one without a value has an empty
value. -/
def parameters (query : List Char) : List (String × String) :=
  let pairs := (Text.pieces '&' query).map fun p =>
    let (name, value) := p.span (· ≠ '=')
    (Text.unescapeOctets name, Text.unescapeOctets (value.drop 1))
  pairs.filter fun (name, _) => name ≠ ""

/-- The ways to reach files that there are; one of them keeps them in memory. -/
def knownSystems : List String :=
  ["unix", "unix-none", "unix-dotfile", "unix-excl", "memdb"]

/-- The number at the start of a text, if it has 31 bits; zero otherwise. -/
def leadNumber (cs : List Char) : Nat :=
  let n :=
    match (Text.after? ['0', 'x'] cs).or (Text.after? ['0', 'X'] cs) with
    | some hex => (Text.hexNumber? (hex.takeWhile fun c => (Text.hexDigit? c).isSome)).getD 0
    | none => Decimal.ofDigits (cs.takeWhile Char.isDigit)
  if n < Decimal.wordCount 31 then n else 0

/-- Whether a parameter is switched on: by a word, or by a number whose last byte is not zero. -/
def isOn (value : String) : Bool :=
  if value.toList.head?.any Char.isDigit then leadNumber value.toList % 256 != 0
  else ["on", "yes", "true"].contains (value.map Char.toLower)

structure Opening where
  mode : OpenMode := .create
  system : String := "unix"
  immutable : Option Bool := none
  rightsOf? : Option String := none

def Opening.apply (o : Opening) : String × String → Except ConnectionFault Opening
  | ("vfs", system) => .ok { o with system := system }
  | ("cache", value) =>
    if value = "shared" || value = "private" then .ok o else .error .badAddress
  | ("mode", value) =>
    match OpenMode.ofName? value with
    | none => .error .badAddress
    | some mode => if mode.mayFollow o.mode then .ok { o with mode := mode } else .error .notAllowed
  | ("immutable", value) => .ok { o with immutable := o.immutable.or (some (isOn value)) }
  | ("modeof", path) => .ok { o with rightsOf? := o.rightsOf?.or (some path) }
  | _ => .ok o

def opening (query : List Char) : Except ConnectionFault Opening := do
  let o ← (parameters query).foldlM Opening.apply {}
  if knownSystems.contains o.system then return o else throw .badAddress

def ofName (name : String) (o : Opening) : DatabaseAddress :=
  let isNameless := name = "" || name = ":memory:" || o.mode = .memory
  { file? := if isNameless || o.system = "memdb" then none else some name
    mode := o.mode
    immutable := !isNameless && o.immutable = some true
    rightsOf? := o.rightsOf? }

def ofUri (uri : List Char) : Except ConnectionFault DatabaseAddress := do
  let path ← withoutAuthority uri
  let (name, query) := (path.takeWhile (· ≠ '#')).span (· ≠ '?')
  let o ← opening (query.drop 1)
  return ofName (Text.unescapeOctets name) o

def ofUrl (url : List Char) : Except ConnectionFault DatabaseAddress :=
  let url := normalScheme url
  match nulPosition? url with
  | some n => .error (.nulInName n)
  | none =>
    match Text.after? fileScheme.toList url with
    | none => .ok (ofName (String.ofList url) {})
    | some uri => ofUri uri

def parse (url : String) : Except StoreFault DatabaseAddress :=
  let url := Text.trim url.toList
  if url.isEmpty then .error .blankUrl
  else
    match ofUrl url with
    | .error f => .error (.connection f)
    | .ok a => .ok a

end DatabaseAddress

end BeanDoc
