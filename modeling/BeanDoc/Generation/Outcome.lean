import BeanDoc.Generation.Edit
import BeanDoc.Template.Render

/-! Generation of comments for selected methods. Every selected method leads to an edit, is skipped,
or fails. -/

namespace BeanDoc

inductive GenerationFault where
  | unknownMethod (method : Nat)
  | template (methodName : String) (fault : TemplateFault)
  deriving DecidableEq, Repr

def GenerationFault.message : GenerationFault → String
  | unknownMethod i => "no method with index " ++ toString i ++ " in class"
  | template name f => "failed to render comment for '" ++ name ++ "': " ++ f.message

structure GenerationFailure where
  method : Nat
  fault : GenerationFault
  deriving DecidableEq, Repr

inductive Generated where
  | edit (e : Edit)
  | skipped (method : Nat)
  | failed (failure : GenerationFailure)
  deriving DecidableEq, Repr

/-- What comes of a selection; each list is in the order of the selection. -/
structure Outcome where
  edits : List Edit := []
  skipped : List Nat := []
  failures : List GenerationFailure := []
  deriving DecidableEq, Repr, Inhabited

namespace Outcome

def append (a b : Outcome) : Outcome :=
  ⟨a.edits ++ b.edits, a.skipped ++ b.skipped, a.failures ++ b.failures⟩

instance : Append Outcome := ⟨append⟩

def ofGenerated : Generated → Outcome
  | .edit e => { edits := [e] }
  | .skipped i => { skipped := [i] }
  | .failed f => { failures := [f] }

def replaced (o : Outcome) : Nat :=
  (o.edits.filter (·.mode == .replace)).length

def inserted (o : Outcome) : Nat :=
  (o.edits.filter (·.mode == .insert)).length

end Outcome

def generateOne (c : ClassModel) (template projectName : String) (overwrite : Bool) (i : Nat) :
    Generated :=
  match c.methods[i]? with
  | none => .failed ⟨i, .unknownMethod i⟩
  | some m =>
    if m.hasComment && !overwrite then .skipped i
    else
      match Template.render template (.forMethod c m projectName) with
      | .ok comment => .edit ⟨i, m.name, comment, if m.hasComment then .replace else .insert⟩
      | .error f => .failed ⟨i, .template m.name f⟩

def generate (c : ClassModel) (template projectName : String) (overwrite : Bool)
    (selected : List Nat) : Outcome :=
  selected.foldr
    (fun i o => .ofGenerated (generateOne c template projectName overwrite i) ++ o) {}

end BeanDoc
