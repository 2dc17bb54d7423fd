import BeanDoc.Accessor.Category
import BeanDoc.Generation.Outcome
import BeanDoc.Selection
import BeanDoc.Telemetry
import BeanDoc.TemplateKind

/-! A run over one class: the accessors of a category are offered, comments are generated for the
selected ones, getters first, and each is put in its place. -/

namespace BeanDoc

structure Templates where
  getter : String := TemplateKind.getter.default
  setter : String := TemplateKind.setter.default
  deriving DecidableEq, Repr

def Templates.get (t : Templates) : TemplateKind → String
  | .getter => t.getter
  | .setter => t.setter

inductive Status where
  | noClass
  | noCandidates
  | cancelled
  | completed
  deriving DecidableEq, Repr

structure Report where
  status : Status
  className : Option String := none
  outcome : Outcome := {}
  rejections : List Rejection := []
  deriving DecidableEq, Repr

namespace Report

def applied (r : Report) : Nat :=
  r.outcome.edits.length - r.rejections.length

def counts (r : Report) : Counts where
  inserted := r.outcome.inserted
  replaced := r.outcome.replaced
  skipped := r.outcome.skipped.length
  failed := r.outcome.failures.length + r.rejections.length

def event (r : Report) : Option Event :=
  if r.status = .completed then some (.commentsGenerated (r.className.getD "") r.counts) else none

end Report

def ClassModel.subject (c : ClassModel) : Option ClassModel :=
  if c.isInterface then none else some c

def ClassModel.isEnabled (c : ClassModel) (category : Accessor.Category) : Bool :=
  match c.subject with
  | none => false
  | some c => !(c.candidates category).isEmpty

def ClassModel.ofKind (c : ClassModel) (k : Accessor.Kind) (selected : List Nat) : List Nat :=
  selected.filter fun i => (c.methods[i]?).any fun m => m.kind == k

def generateSelection (c : ClassModel) (templates : Templates) (projectName : String)
    (s : Selection) : Outcome :=
  generate c templates.getter projectName s.overwrite (c.ofKind .getter s.methods) ++
    generate c templates.setter projectName s.overwrite (c.ofKind .setter s.methods)

def run (category : Accessor.Category) (select : Selector) (templates : Templates)
    (projectName : String) (c : ClassModel) : ClassModel × Report :=
  match c.subject with
  | none => (c, { status := .noClass })
  | some _ =>
    let candidates := c.candidates category
    if candidates.isEmpty then (c, { status := .noCandidates, className := some c.name })
    else
      match select c candidates with
      | none => (c, { status := .cancelled, className := some c.name })
      | some selection =>
        let outcome := generateSelection c templates projectName selection
        let (documented, rejections) := c.takeEdits outcome.edits
        (documented, ⟨.completed, some c.name, outcome, rejections⟩)

end BeanDoc
