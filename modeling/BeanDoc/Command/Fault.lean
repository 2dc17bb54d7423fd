import BeanDoc.Editor
import BeanDoc.Files.ClassDocument
import BeanDoc.Settings.Basic
import BeanDoc.Telemetry

/-! Why a command fails. -/

namespace BeanDoc

inductive SettingsFault where
  | noClassFile (fault : NoClassFile)
  | category (fault : Accessor.UnsupportedCategory)
  | databaseUrl (fault : StoreFault)
  | templatePath (path : String)
  deriving DecidableEq, Repr

def SettingsFault.message : SettingsFault → String
  | noClassFile f => f.message
  | category f => f.message
  | databaseUrl f => f.message
  | templatePath path => "template path " ++ path ++ " has no file name"

inductive CommandFault where
  | settings (fault : SettingsFault)
  | templateFile (path : String) (fault : FileFault)
  | invalidTemplate (kind : TemplateKind) (fault : TemplateFault)
  | store (fault : StoreFault)
  | classFile (fault : ClassFileFault)

namespace CommandFault

def message : CommandFault → String
  | settings f => "configuration error: " ++ f.message
  | templateFile path f => "I/O error: failed to read template " ++ path ++ ": " ++ f.message
  | invalidTemplate kind f => "Template for " ++ kind.name ++ " is invalid! " ++ f.message
  | store f => f.message
  | classFile f => f.message

def ofStore : StoreFault → CommandFault
  | .blankUrl => settings (.databaseUrl .blankUrl)
  | f => store f

def ofEditor : EditorFault → CommandFault
  | .invalid kind f => invalidTemplate kind f
  | .save f => store f.fault

end CommandFault

structure Performed (α : Type) where
  result : Except CommandFault α
  files : Files
  output : String := ""
  events : List Event := []

namespace Performed

variable {α β : Type}

def fail (f : CommandFault) (t : Files) : Performed α :=
  { result := .error f, files := t }

def map (f : α → β) (p : Performed α) : Performed β :=
  { p with result := p.result.map f }

end Performed

end BeanDoc
