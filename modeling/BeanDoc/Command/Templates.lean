import BeanDoc.Command.OpenStore
import BeanDoc.Files.Content

/-! Showing and saving the templates. -/

namespace BeanDoc

def placeholderHelp : String :=
  "Edit the template as you need. Make sure that the template is a valid javadoc comment. " ++
  "Variables may be written as Velocity-style references ($field, $\x7bfield\x7d, $!field) " ++
  "or as Jinja2 expressions (\x7b\x7b field \x7d\x7d), and references also work inside tags " ++
  "(\x7b% if $field %\x7d). " ++
  "Control flow uses Jinja2 tags only (\x7b% if %\x7d...\x7b% else %\x7d...\x7b% endif %\x7d, " ++
  "\x7b% for %\x7d...\x7b% endfor %\x7d): " ++
  "Velocity directives such as #if, #set or ## comments are not interpreted and are copied " ++
  "into the comment as plain text. The following variables are defined:\n" ++
  "\n" ++
  "$field - the field name\n" ++
  "$field_type - the field type\n" ++
  "$class_name - the class name\n" ++
  "$full_class_name - the full qualified class name\n" ++
  "$project_name - the project name\n" ++
  "\n" ++
  "Undefined variables render as empty text. The comment is reformatted after insertion."

def TemplateConfig.listing (configs : List TemplateConfig) : String :=
  String.join (configs.map fun c => "== " ++ c.kind.name ++ " ==\n" ++ c.template ++ "\n\n") ++
    placeholderHelp ++ "\n"

def showCommand (s : Settings) (t : Files) : Performed Unit :=
  match configuredTemplates s.databaseUrl t with
  | .error f => .fail f t
  | .ok configs =>
    { result := .ok (), files := t.openDatabase s.databaseUrl
      output := TemplateConfig.listing configs }

def readTemplate (t : Files) (path : String) : Except CommandFault String :=
  if (Path.fileName? path).isNone then .error (.settings (.templatePath path))
  else
    match t.readText path with
    | .error f => .error (.templateFile path f)
    | .ok text => .ok (String.ofList (Text.trimEnd text.toList))

def Settings.templateFiles (s : Settings) : List (TemplateKind × String) :=
  (s.getterTemplateFile.map fun path => (TemplateKind.getter, path)).toList ++
    (s.setterTemplateFile.map fun path => (TemplateKind.setter, path)).toList

def Editor.readDrafts (t : Files) (e : Editor) :
    List (TemplateKind × String) → Except CommandFault Editor
  | [] => .ok e
  | (k, path) :: files =>
    match readTemplate t path with
    | .error f => .error f
    | .ok text => (e.setDraft k text).readDrafts t files

/-- Saves the templates that were given as files, and with them those that are in use. -/
def saveCommand (s : Settings) (t : Files) : Performed Unit :=
  match s.databaseUrl with
  | none => .fail (.settings (.databaseUrl .missingUrl)) t
  | some url =>
    match requireUrl url with
    | .error f => .fail f t
    | .ok url =>
      let t := t.touchDatabase url
      let store := TemplateStore.database url
      match (Editor.ofConfigs (TemplateConfig.loadAll store t)).readDrafts t s.templateFiles with
      | .error f => .fail f t
      | .ok editor =>
        let applied := editor.apply store t
        match applied.fault with
        | some f => .fail (.ofEditor f) applied.state
        | none =>
          { result := .ok (), files := applied.state
            events := s.templateFiles.map fun (k, _) => .templateSaved k.name }

def migrateCommand (s : Settings) (t : Files) : Performed Unit :=
  match s.databaseUrl with
  | none => .fail (.settings (.databaseUrl .missingUrl)) t
  | some url =>
    let m := Migration.perform url t
    match m.result with
    | .error f => { result := .error (.ofStore f), files := m.files, events := m.events }
    | .ok _ => { result := .ok (), files := m.files, events := m.events }

end BeanDoc
