import BeanDoc.Store.Fault

/-! Stores of templates, and the one that keeps them in memory. -/

namespace BeanDoc

/-- How templates are loaded from a state and saved to it. A save that fails has no new state, so
the old one stays. -/
structure TemplateStore (σ : Type) where
  load : σ → TemplateKind → Except StoreFault (Option String)
  save : σ → TemplateKind → String → Except StoreFault σ

structure SavedTemplates where
  getter : Option String := none
  setter : Option String := none
  deriving DecidableEq, Repr

namespace SavedTemplates

def get? (s : SavedTemplates) : TemplateKind → Option String
  | .getter => s.getter
  | .setter => s.setter

def set (s : SavedTemplates) (k : TemplateKind) (text : String) : SavedTemplates :=
  match k with
  | .getter => { s with getter := some text }
  | .setter => { s with setter := some text }

theorem get?_set (s : SavedTemplates) (k : TemplateKind) (text : String) (l : TemplateKind) :
    (s.set k text).get? l = if l = k then some text else s.get? l := by
  cases k <;> cases l <;> rfl

end SavedTemplates

def TemplateStore.memory : TemplateStore SavedTemplates where
  load s k := .ok (s.get? k)
  save s k text := .ok (s.set k text)

end BeanDoc
