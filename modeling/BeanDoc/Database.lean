import BeanDoc.TemplateKind
import BeanDoc.Text.Blank
import BeanDoc.Text.Split

/-! The database of stored templates: a record of the schema versions it has been brought to, and a
table with one row per template. A database that was made elsewhere may have another table, or a
view, under that name. -/

namespace BeanDoc

inductive DatabaseFault where
  | notDatabase
  | noSuchTable (name : String)
  | noSuchColumn (name : String)
  | unknownColumn (table column : String)
  | noConflictTarget
  | readOnlyView (name : String)
  | missingText
  | readOnly
  | refused (reason : String)
  deriving DecidableEq, Repr

def DatabaseFault.message : DatabaseFault → String
  | notDatabase => "file is not a database"
  | noSuchTable name => "no such table: " ++ name
  | noSuchColumn name => "no such column: " ++ name
  | unknownColumn table column => "table " ++ table ++ " has no column named " ++ column
  | noConflictTarget => "ON CONFLICT clause does not match any PRIMARY KEY or UNIQUE constraint"
  | readOnlyView name => "cannot modify " ++ name ++ " because it is a view"
  | missingText => "Unexpected null for non-null column"
  | readOnly => "attempt to write a readonly database"
  | refused reason => reason

/-- A table of templates: rows of a storage key and a text, which may be missing. A table that was
made elsewhere may lack the column of texts or the uniqueness of keys, and it may refuse new rows.
-/
structure TemplateTable where
  rows : List (String × Option String) := []
  hasTexts : Bool := true
  hasUniqueKeys : Bool := true
  refusal : Option String := none
  deriving DecidableEq, Repr

inductive TemplateRelation where
  | absent
  | table (t : TemplateTable)
  | view (rows : List (String × Option String))
  deriving DecidableEq, Repr

structure Database where
  versions : List String := []
  templates : TemplateRelation := .absent
  deriving DecidableEq, Repr

namespace TemplateTable

def name : String :=
  "doc_templates"

def keyColumn : String :=
  "category"

def textColumn : String :=
  "template"

def columnsOf (sql : List Char) : List (List (List Char)) :=
  let inner := ((Text.cutWhere (· == '(') sql).2.takeWhile (· != ')'))
  (Text.pieces ',' inner).map Text.words

def declares (column : String) (declaration : List (List Char)) : Bool :=
  declaration.head? == some column.toList

/-- The table that a statement creates: it has texts if there is a column of them, and unique keys
if these are its primary key. -/
def declaredBy (sql : String) : TemplateTable where
  hasTexts := (columnsOf sql.toList).any (declares textColumn)
  hasUniqueKeys := (columnsOf sql.toList).any fun d =>
    declares keyColumn d && (d.zip d.tail).contains ("PRIMARY".toList, "KEY".toList)

def setRow (key text : String) : List (String × Option String) → List (String × Option String)
  | [] => [(key, some text)]
  | (k, t) :: rows => if k = key then (k, some text) :: rows else (k, t) :: setRow key text rows

theorem lookup_setRow (key text k : String) (rows : List (String × Option String)) :
    (setRow key text rows).lookup k = if k = key then some (some text) else rows.lookup k := by
  induction rows with
  | nil =>
    by_cases h : k = key
    · simp [setRow, h]
    · simp [setRow, List.lookup_cons, h, beq_eq_false_iff_ne.mpr h]
  | cons row rows ih =>
    obtain ⟨l, t⟩ := row
    by_cases hl : l = key
    · by_cases h : k = key
      · simp [setRow, h, hl]
      · have hk : (k == key) = false := beq_eq_false_iff_ne.mpr h
        simp [setRow, List.lookup_cons, h, hl, hk]
    · by_cases h : k = l
      · simp [setRow, hl, h]
      · have hk : (k == l) = false := beq_eq_false_iff_ne.mpr h
        simp [setRow, List.lookup_cons, hl, hk, ih]

def set (t : TemplateTable) (key text : String) : Except DatabaseFault TemplateTable :=
  if !t.hasTexts then .error (.unknownColumn name textColumn)
  else if !t.hasUniqueKeys then .error .noConflictTarget
  else
    match t.refusal with
    | some reason => .error (.refused reason)
    | none => .ok { t with rows := setRow key text t.rows }

end TemplateTable

def textOf? (key : String) (rows : List (String × Option String)) :
    Except DatabaseFault (Option String) :=
  match rows.lookup key with
  | none => .ok none
  | some none => .error .missingText
  | some (some text) => .ok (some text)

namespace Database

def hasTable (d : Database) : Bool :=
  match d.templates with
  | .table _ => true
  | _ => false

def get? (d : Database) (k : TemplateKind) : Except DatabaseFault (Option String) :=
  match d.templates with
  | .absent => .error (.noSuchTable TemplateTable.name)
  | .view rows => textOf? k.storageKey rows
  | .table t =>
    if t.hasTexts then textOf? k.storageKey t.rows
    else .error (.noSuchColumn TemplateTable.textColumn)

def set (d : Database) (k : TemplateKind) (text : String) : Except DatabaseFault Database :=
  match d.templates with
  | .absent => .error (.noSuchTable TemplateTable.name)
  | .view _ => .error (.readOnlyView TemplateTable.name)
  | .table t =>
    match t.set k.storageKey text with
    | .ok t => .ok { d with templates := .table t }
    | .error f => .error f

/-- The version of the schema that this library tells its callers. -/
def initialVersion : String :=
  "20261001000000"

def schemaStep : String :=
  "20261001000000_create_doc_templates"

def schemaStatement : String :=
  "CREATE TABLE doc_templates (\n    category TEXT PRIMARY KEY NOT NULL,\n" ++
    "    template TEXT NOT NULL,\n" ++
    "    updated_at TIMESTAMP NOT NULL DEFAULT CURRENT_TIMESTAMP\n);\n"

/-- The version that a step is recorded under: its name up to the first underscore, without any
hyphens. -/
def versionOf (step : String) : String :=
  String.ofList ((Text.cutWhere (· == '_') step.toList).1.filter (· != '-'))

def schemaVersion : String :=
  versionOf schemaStep

theorem schemaVersion_eq_initialVersion : schemaVersion = initialVersion := by
  decide +kernel

/-- What the table of a new database is by default is what the statement makes it. -/
theorem declaredBy_schemaStatement : TemplateTable.declaredBy schemaStatement = {} := by
  decide +kernel

inductive MigrationFault where
  | database (fault : DatabaseFault)
  | step (fault : DatabaseFault)
  | occupied (relation : String)
  deriving DecidableEq, Repr

def MigrationFault.message : MigrationFault → String
  | database f => f.message
  | step f => "Failed to run " ++ schemaStep ++ " with: " ++ f.message
  | occupied relation =>
    "Failed to run " ++ schemaStep ++ " with: " ++ relation ++ " " ++ TemplateTable.name ++
      " already exists"

def runStep (d : Database) : Except MigrationFault Database :=
  match d.templates with
  | .absent =>
    .ok ⟨d.versions ++ [schemaVersion], .table (TemplateTable.declaredBy schemaStatement)⟩
  | .table _ => .error (.occupied "table")
  | .view _ => .error (.occupied "view")

def migrate (d : Database) : Except MigrationFault Database :=
  if d.versions.contains schemaVersion then .ok d else d.runStep

/-- The same for a database that cannot be written. The record of versions is made first if there
is none, and a step that cannot be prepared fails for that reason. -/
def migrateReadOnly (d : Database) : Except MigrationFault Database :=
  if d.versions.contains schemaVersion then .ok d
  else if d.versions.isEmpty then .error (.database .readOnly)
  else
    match d.runStep with
    | .error f => .error f
    | .ok _ => .error (.step .readOnly)

/-- Stores the text of a template in a database that cannot be written. A statement that cannot be
prepared fails for that reason. -/
def setReadOnly (d : Database) (k : TemplateKind) (text : String) : Except DatabaseFault Database :=
  match d.set k text with
  | .error (.refused _) => .error .readOnly
  | .error f => .error f
  | .ok _ => .error .readOnly

def latestVersion? (d : Database) : Option String :=
  let greater (best : Option String) (v : String) : Option String :=
    match best with
    | none => some v
    | some b => some (if b < v then v else b)
  d.versions.foldl greater none

end Database

end BeanDoc
