import BeanDoc.Command.Fault
import BeanDoc.Store.DatabaseStore

/-! The templates that a command uses: those in the database, if there is one, and the defaults. -/

namespace BeanDoc

def requireUrl (url : String) : Except CommandFault String :=
  if Text.isBlankText url then .error (.ofStore .blankUrl) else .ok url

def configuredTemplates (databaseUrl : Option String) (t : Files) :
    Except CommandFault (List TemplateConfig) :=
  match databaseUrl with
  | none => .ok (TemplateConfig.loadAll TemplateStore.memory {})
  | some url =>
    match requireUrl url with
    | .error f => .error f
    | .ok url => .ok (TemplateConfig.loadAll (.database url) t)

def FileTree.openDatabase (t : Files) (databaseUrl : Option String) : Files :=
  match databaseUrl with
  | none => t
  | some url => t.touchDatabase url

def templateOf (configs : List TemplateConfig) (k : TemplateKind) : String :=
  match configs.find? (·.kind = k) with
  | some c => c.template
  | none => k.default

end BeanDoc
