import BeanDoc.Store.Basic
import BeanDoc.Text.Blank

/-! Configured templates: what is stored, or the default where nothing but blanks is. -/

namespace BeanDoc

structure TemplateConfig where
  kind : TemplateKind
  template : String
  deriving DecidableEq, Repr

structure SaveFault where
  kind : TemplateKind
  fault : StoreFault
  deriving DecidableEq, Repr

def SaveFault.message (f : SaveFault) : String :=
  "failed to save " ++ f.kind.name ++ " template: " ++ f.fault.message

namespace TemplateConfig

variable {σ : Type}

/-- The template to use, given what was loaded. A store that fails counts as empty. -/
def effective (k : TemplateKind) : Except StoreFault (Option String) → String
  | .ok (some text) => if Text.isBlankText text then k.default else text
  | _ => k.default

def load (store : TemplateStore σ) (s : σ) (k : TemplateKind) : TemplateConfig :=
  ⟨k, effective k (store.load s k)⟩

def loadAll (store : TemplateStore σ) (s : σ) : List TemplateConfig :=
  TemplateKind.all.map (load store s)

def isDefault (c : TemplateConfig) : Bool :=
  c.template == c.kind.default

/-- Stores a template, and then uses it. With the answer, which has the new state of the store,
comes the configured template as the call leaves it. -/
def save (store : TemplateStore σ) (s : σ) (c : TemplateConfig) (text : String) :
    Except SaveFault σ × TemplateConfig :=
  match store.save s c.kind text with
  | .error f => (.error ⟨c.kind, f⟩, c)
  | .ok s => (.ok s, { c with template := text })

end TemplateConfig

end BeanDoc
