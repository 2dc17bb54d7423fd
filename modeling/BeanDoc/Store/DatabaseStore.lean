import BeanDoc.Files.Content
import BeanDoc.Store.Address
import BeanDoc.Store.Basic
import BeanDoc.Telemetry

/-! The store in a database file, and the migration that prepares the file. Every call opens the
database anew, so that one in memory is empty at every call. -/

namespace BeanDoc

inductive DatabaseLocation where
  | memory
  | file (place : List String)
  deriving DecidableEq, Repr

namespace DatabaseLocation

def content (t : Files) : DatabaseLocation → FileContent
  | memory => .text ""
  | file place =>
    match t.node? place with
    | some (.file content) => content
    | _ => .text ""

/-- The files after the database has changed. What is in memory is lost. -/
def put (t : Files) (d : Database) : DatabaseLocation → Files
  | memory => t
  | file place => t.put place (.file (.database d))

end DatabaseLocation

structure Connection where
  location : DatabaseLocation
  readOnly : Bool := false
  deriving DecidableEq, Repr

namespace Connection

def pathSize (place : List String) : Nat :=
  place.foldl (fun n c => n + 1 + c.utf8ByteSize) 0

def pathLimit : Nat := 512

/-- How many bytes the names of the files beside a database have more than its own. -/
def besideSize : Nat := 8

def placeBehind (t : Files) (place : List String) (c : String) : Option (List String) :=
  -- two dots are a step back in the path itself, whatever stands there
  if c = ".." then some place.dropLast
  else if pathSize (place ++ [c]) ≥ pathLimit then none
  else
    match t.node? place with
    | some (.file _) => none
    | some .directory => if Path.isTooLong c then none else some (place ++ [c])
    | none => some (place ++ [c])

def placeOf? (t : Files) (path : String) : Option (List String) :=
  let start := if Path.isAbsolute path then [] else t.current
  ((Path.components path).foldlM (placeBehind t) start).filter fun place =>
    pathSize place + besideSize ≤ pathLimit

def locateAt (t : Files) (mode : OpenMode) (place : List String) :
    Except ConnectionFault DatabaseLocation :=
  match t.node? place.dropLast, t.node? place with
  | some .directory, none =>
    if mode = .create then .ok (.file place) else .error .cannotOpen
  | some .directory, some (.file _) => .ok (.file place)
  -- a directory can be opened, but not read, if it is not to be written
  | some .directory, some .directory =>
    .error (if mode = .readOnly then .cannotRead else .cannotOpen)
  | _, _ => .error .cannotOpen

/-- Whether access rights can be found, if they are to be those of something else. -/
def hasRights (t : Files) (a : DatabaseAddress) : Bool :=
  a.rightsOf?.all fun path => t.isFileAt path || t.isDirectoryAt path

def locate (t : Files) (a : DatabaseAddress) (path : String) :
    Except ConnectionFault DatabaseLocation :=
  match placeOf? t path with
  | none => .error .cannotOpen
  | some place => if hasRights t a then locateAt t a.mode place else .error .cannotRead

def ofAddress (t : Files) (a : DatabaseAddress) : Except ConnectionFault Connection :=
  let readOnly := a.mode = .readOnly || a.immutable
  match a.file? with
  | none => .ok ⟨.memory, readOnly⟩
  | some path =>
    match locate t a path with
    | .error f => .error f
    | .ok l => .ok ⟨l, readOnly⟩

def establish (t : Files) (url : String) : Except StoreFault Connection :=
  match DatabaseAddress.parse url with
  | .error f => .error f
  | .ok a =>
    match ofAddress t a with
    | .error f => .error (.connection f)
    | .ok c => .ok c

end Connection

namespace Database

/-- The fault of a statement: without a table, whatever went wrong, the database is not ready. -/
def fault (d : Database) (statement : StatementFault → StoreFault) (f : DatabaseFault) :
    StoreFault :=
  if d.hasTable then statement (.checked f) else .notInitialised

def load (d : Database) (k : TemplateKind) : Except StoreFault (Option String) :=
  match d.get? k with
  | .ok text => .ok text
  | .error f => .error (d.fault .query f)

def save (d : Database) (readOnly : Bool) (k : TemplateKind) (text : String) :
    Except StoreFault Database :=
  match if readOnly then d.setReadOnly k text else d.set k text with
  | .ok d => .ok d
  | .error f => .error (d.fault .write f)

end Database

namespace TemplateStore

def loadAt (url : String) (t : Files) (k : TemplateKind) : Except StoreFault (Option String) :=
  match Connection.establish t url with
  | .error f => .error f
  | .ok c =>
    match (c.location.content t).toDatabase with
    | .error f => .error (.query (.unchecked f f))
    | .ok d => d.load k

def saveAt (url : String) (t : Files) (k : TemplateKind) (text : String) :
    Except StoreFault Files :=
  match Connection.establish t url with
  | .error f => .error f
  | .ok c =>
    match (c.location.content t).toDatabase with
    | .error f => .error (.write (.unchecked f f))
    | .ok d =>
      match d.save c.readOnly k text with
      | .error f => .error f
      | .ok d => .ok (c.location.put t d)

def database (url : String) : TemplateStore Files where
  load := loadAt url
  save := saveAt url

end TemplateStore

def migrateDatabase (url : String) (t : Files) : Except StoreFault (String × Files) :=
  match Connection.establish t url with
  | .error f => .error f
  | .ok c =>
    match (c.location.content t).toDatabase with
    | .error f => .error (.migration (.database f))
    | .ok d =>
      match if c.readOnly then d.migrateReadOnly else d.migrate with
      | .error f => .error (.migration f)
      | .ok d =>
        match d.latestVersion? with
        | none => .error .noVersion
        | some version => .ok (version, c.location.put t d)

/-- The files after a database was opened and not written: a file that was not there is empty. -/
def FileTree.touchDatabase (t : Files) (url : String) : Files :=
  match Connection.establish t url with
  | .ok ⟨.file place, _⟩ => if (t.node? place).isSome then t else t.put place (.file (.text ""))
  | _ => t

structure Migration where
  result : Except StoreFault String
  files : Files
  events : List Event

/-- Migrates and records the version. A migration that fails records nothing, and it leaves the
database as it was opened. -/
def Migration.perform (url : String) (t : Files) : Migration :=
  match migrateDatabase url t with
  | .error f => ⟨.error f, t.touchDatabase url, []⟩
  | .ok (version, t) => ⟨.ok version, t, [.schemaVersionRecorded version]⟩

end BeanDoc
