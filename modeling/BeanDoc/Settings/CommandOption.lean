import BeanDoc.Text.Letter

/-! The options of the command line. Each sets the value of one key of the settings, but for two:
one asks for help, and one names the configuration file. -/

namespace BeanDoc

/-- An option: its key, its letter if it has one, and a name for its value if it takes one. An
option without a value is a flag. -/
structure CommandOption where
  key : String
  letter : Option Char
  valueName : Option String
  deriving DecidableEq, Repr

namespace CommandOption

def flag (key : String) (letter : Char) : CommandOption :=
  ⟨key, some letter, none⟩

def valued (key : String) (letter : Char) : CommandOption :=
  ⟨key, some letter, some (key.map Char.toUpper)⟩

def help : CommandOption :=
  flag "help" 'h'

/-- The option that names the configuration file. It is not listed in the help. -/
def configPath : CommandOption :=
  ⟨"config_path", none, some "PATH"⟩

def setters : List CommandOption := [
  valued "class_file" 'c',
  valued "output_file" 'o',
  valued "project_name" 'p',
  valued "category" 'k',
  flag "overwrite" 'w',
  valued "methods" 'm',
  valued "database_url" 'd',
  flag "migrate_db" 'M',
  valued "getter_template_file" 'g',
  valued "setter_template_file" 's',
  flag "dry_run" 'n']

def configuring : List CommandOption :=
  setters ++ [configPath]

def all : List CommandOption :=
  configuring ++ [help]

def listed : List CommandOption :=
  setters ++ [help]

def takesValue (o : CommandOption) : Bool :=
  o.valueName.isSome

def name (o : CommandOption) : String :=
  o.key.map fun c => if c = '_' then '-' else c

def usage (o : CommandOption) : String :=
  "--" ++ o.name ++ ((o.valueName.map fun v => " <" ++ v ++ ">").getD "")

def choice : String :=
  "<" ++ String.intercalate "|" (configuring.map usage) ++ ">"

def ofName? (name : List Char) : Option CommandOption :=
  all.find? fun o => o.name.toList = name

def ofLetter? (letter : Char) : Option CommandOption :=
  all.find? fun o => o.letter = some letter

def helpLine (o : CommandOption) : String :=
  "  " ++ ((o.letter.map fun c => "-" ++ c.toString ++ ", ").getD "    ") ++ o.usage

def helpWidth : Nat :=
  (listed.map fun o => o.helpLine.length).foldl max 0 + 2

def explanation (o : CommandOption) : String :=
  if o = help then "Print help" else ""

def helpText : String :=
  "Usage: gendoc [OPTIONS]\n\nOptions:\n" ++
    String.join (listed.map fun o =>
      String.ofList (o.helpLine.toList.rightpad helpWidth ' ') ++ o.explanation ++ "\n")

end CommandOption

end BeanDoc
