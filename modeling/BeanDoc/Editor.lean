import BeanDoc.Template.Render
import BeanDoc.TemplateConfig

/-! An editing session over configured templates. Drafts are changed freely; they are saved
together, and only if all of them are valid. -/

namespace BeanDoc

structure Draft where
  config : TemplateConfig
  text : String
  deriving DecidableEq, Repr

inductive EditorFault where
  | invalid (kind : TemplateKind) (fault : TemplateFault)
  | save (fault : SaveFault)
  deriving DecidableEq, Repr

def EditorFault.message : EditorFault → String
  | invalid kind _ => "Template for " ++ kind.name ++ " is invalid!"
  | save f => f.message

structure Editor where
  drafts : List Draft
  deriving DecidableEq, Repr

namespace Draft

def ofConfig (c : TemplateConfig) : Draft :=
  ⟨c, c.template⟩

def isModified (d : Draft) : Bool :=
  d.text != d.config.template

def setFirst (k : TemplateKind) (text : String) : List Draft → List Draft
  | [] => []
  | d :: ds => if d.config.kind = k then { d with text := text } :: ds else d :: setFirst k text ds

def firstInvalid? : List Draft → Option EditorFault
  | [] => none
  | d :: ds =>
    match Template.check d.text with
    | .error f => some (.invalid d.config.kind f)
    | .ok _ => firstInvalid? ds

end Draft

structure Saved (σ : Type) where
  state : σ
  drafts : List Draft
  fault : Option SaveFault

namespace Draft

variable {σ : Type}

def saveAll (store : TemplateStore σ) (s : σ) : List Draft → Saved σ
  | [] => ⟨s, [], none⟩
  | d :: ds =>
    match d.config.save store s d.text with
    | (.error f, c) => ⟨s, { d with config := c } :: ds, some f⟩
    | (.ok s, c) =>
      let rest := saveAll store s ds
      { rest with drafts := { d with config := c } :: rest.drafts }

end Draft

structure Applied (σ : Type) where
  state : σ
  editor : Editor
  fault : Option EditorFault

namespace Editor

variable {σ : Type}

def ofConfigs (configs : List TemplateConfig) : Editor :=
  ⟨configs.map Draft.ofConfig⟩

def find? (e : Editor) (k : TemplateKind) : Option Draft :=
  e.drafts.find? fun d => d.config.kind = k

def setDraft (e : Editor) (k : TemplateKind) (text : String) : Editor :=
  ⟨Draft.setFirst k text e.drafts⟩

def isModified (e : Editor) : Bool :=
  e.drafts.any Draft.isModified

def reset (e : Editor) : Editor :=
  ⟨e.drafts.map fun d => { d with text := d.config.template }⟩

def restoreDefaults (e : Editor) : Editor :=
  ⟨e.drafts.map fun d => { d with text := d.config.kind.default }⟩

def apply (store : TemplateStore σ) (s : σ) (e : Editor) : Applied σ :=
  match Draft.firstInvalid? e.drafts with
  | some f => ⟨s, e, some f⟩
  | none =>
    let saved := Draft.saveAll store s e.drafts
    ⟨saved.state, ⟨saved.drafts⟩, saved.fault.map .save⟩

def configs (e : Editor) : List TemplateConfig :=
  e.drafts.map (·.config)

end Editor

end BeanDoc
