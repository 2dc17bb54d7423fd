import BeanDoc.Accessor.Category
import BeanDoc.Json.Decoder

/-! The settings of the tool, and what they ask for. -/

namespace BeanDoc

structure Settings where
  classFile : Option String := none
  outputFile : Option String := none
  projectName : Option String := none
  category : Option String := none
  overwrite : Bool := false
  methods : Option String := none
  databaseUrl : Option String := none
  migrateDb : Bool := false
  getterTemplateFile : Option String := none
  setterTemplateFile : Option String := none
  dryRun : Bool := false
  deriving DecidableEq, Repr

inductive Mode where
  | migrateDatabase
  | saveTemplates
  | generate
  | showTemplates
  deriving DecidableEq, Repr

structure NoClassFile where
  deriving DecidableEq, Repr

def NoClassFile.message (_ : NoClassFile) : String :=
  "class model file is required (use --class-file or -c)"

namespace Settings

/-- A migration comes before all else, and templates to save come before a class file. -/
def mode (s : Settings) : Mode :=
  if s.migrateDb then .migrateDatabase
  else if s.getterTemplateFile.isSome || s.setterTemplateFile.isSome then .saveTemplates
  else if s.classFile.isSome then .generate
  else .showTemplates

def requireClassFile (s : Settings) : Except NoClassFile String :=
  match s.classFile with
  | some path => .ok path
  | none => .error {}

def outputPath (s : Settings) : Except NoClassFile String :=
  match s.outputFile with
  | some path => .ok path
  | none => s.requireClassFile

def accessorCategory (s : Settings) : Except Accessor.UnsupportedCategory Accessor.Category :=
  match s.category with
  | some text => Accessor.Category.parse text
  | none => .ok .accessors

/-- The names in a list that is separated by commas. White space around names and empty entries do
not count. -/
def splitNames (text : String) : List String :=
  (((Text.pieces ',' text.toList).map Text.trim).filter (!·.isEmpty)).map String.ofList

def methodNames (s : Settings) : Option (List String) :=
  s.methods.map splitNames

def projectNameIn (s : Settings) (current : List String) : String :=
  s.projectName.getD (current.getLast?.getD "")

open Json

def textField (name : String) (set : Option String → Settings → Settings) :
    Decoder.Field Settings :=
  ⟨name, false, .map set (.option .string)⟩

def flagField (name : String) (set : Bool → Settings → Settings) : Decoder.Field Settings :=
  ⟨name, false, .map set .bool⟩

def fields : List (Decoder.Field Settings) := [
  textField "class_file" fun x s => { s with classFile := x },
  textField "output_file" fun x s => { s with outputFile := x },
  textField "project_name" fun x s => { s with projectName := x },
  textField "category" fun x s => { s with category := x },
  flagField "overwrite" fun x s => { s with overwrite := x },
  textField "methods" fun x s => { s with methods := x },
  textField "database_url" fun x s => { s with databaseUrl := x },
  flagField "migrate_db" fun x s => { s with migrateDb := x },
  textField "getter_template_file" fun x s => { s with getterTemplateFile := x },
  textField "setter_template_file" fun x s => { s with setterTemplateFile := x },
  flagField "dry_run" fun x s => { s with dryRun := x }]

def decoder : Decoder Settings :=
  .record { title := "struct GendocConfig", fields := fields, empty := {} }

def toJson (s : Settings) : Value :=
  .object [
    ("class_file", .ofText? s.classFile),
    ("output_file", .ofText? s.outputFile),
    ("project_name", .ofText? s.projectName),
    ("category", .ofText? s.category),
    ("overwrite", .bool s.overwrite),
    ("methods", .ofText? s.methods),
    ("database_url", .ofText? s.databaseUrl),
    ("migrate_db", .bool s.migrateDb),
    ("getter_template_file", .ofText? s.getterTemplateFile),
    ("setter_template_file", .ofText? s.setterTemplateFile),
    ("dry_run", .bool s.dryRun)]

end Settings

end BeanDoc
