import BeanDoc.ClassModel
import BeanDoc.DocComment.Grammar
import BeanDoc.DocComment.Layout
import BeanDoc.Json.Decoder

/-! Edits of comments, and how a class takes them. -/

namespace BeanDoc

inductive EditMode where
  | replace
  | insert
  deriving DecidableEq, Repr

/-- The new comment of one method. The name guards against edits of another state of the class. -/
structure Edit where
  method : Nat
  methodName : String
  comment : String
  mode : EditMode
  deriving DecidableEq, Repr

namespace Edit

open Json

def modeName : EditMode → String
  | .replace => "replace_existing"
  | .insert => "insert_before"

def toJson (e : Edit) : Value :=
  .object [
    ("method", .ofNat e.method),
    ("method_name", .string e.methodName),
    ("comment", .string e.comment),
    ("mode", .string (modeName e.mode))]

def decoder : Decoder Edit :=
  .record {
    title := "struct GeneratedEdit"
    fields := [
      ⟨"method", true, .map (fun n e => { e with method := n }) .nat⟩,
      ⟨"method_name", true, .map (fun s e => { e with methodName := s }) .string⟩,
      ⟨"comment", true, .map (fun s e => { e with comment := s }) .string⟩,
      ⟨"mode", true, .map (fun m e => { e with mode := m })
        (.choice [("replace_existing", EditMode.replace), ("insert_before", .insert)])⟩]
    empty := ⟨0, "", "", .insert⟩ }

end Edit

inductive EditFault where
  | unknownMethod (method : Nat)
  | staleEdit (method : Nat) (expected actual : String)
  | malformedComment (methodName : String) (fault : DocComment.Fault)
  deriving DecidableEq, Repr

def EditFault.message : EditFault → String
  | unknownMethod i => "no method with index " ++ toString i ++ " in this class"
  | staleEdit i expected actual =>
    "method " ++ toString i ++ " is '" ++ actual ++ "', but the edit targets '" ++ expected ++ "'"
  | malformedComment name f => "comment for '" ++ name ++ "' is malformed: " ++ f.message

namespace ClassModel

def modifyMethod (c : ClassModel) (i : Nat) (f : Method → Method) : ClassModel :=
  { c with methods := c.methods.modify i f }

/-- Puts the comment of an edit in its place. The method has to be there under its name, and the
comment has to be a documentation comment. With the answer comes the class as the call leaves it. -/
def applyEdit (c : ClassModel) (e : Edit) : Except EditFault Unit × ClassModel :=
  match c.methods[e.method]? with
  | none => (.error (.unknownMethod e.method), c)
  | some m =>
    if m.name ≠ e.methodName then (.error (.staleEdit e.method e.methodName m.name), c)
    else
      match DocComment.parse e.comment with
      | .error f => (.error (.malformedComment m.name f), c)
      | .ok _ => (.ok (), c.modifyMethod e.method fun m => { m with comment := some e.comment })

def reformat (c : ClassModel) (i : Nat) : Except EditFault Unit × ClassModel :=
  match c.methods[i]? with
  | none => (.error (.unknownMethod i), c)
  | some _ =>
    (.ok (), c.modifyMethod i fun m => { m with comment := m.comment.map DocComment.layout })

def takeEdit (c : ClassModel) (e : Edit) : Except EditFault Unit × ClassModel :=
  match c.applyEdit e with
  | (.error f, d) => (.error f, d)
  | (.ok (), d) => d.reformat e.method

end ClassModel

structure Rejection where
  edit : Edit
  fault : EditFault
  deriving DecidableEq, Repr

/-- Applies edits one after the other, and goes on after those that are rejected with the class that
they leave. -/
def ClassModel.takeEdits (c : ClassModel) : List Edit → ClassModel × List Rejection
  | [] => (c, [])
  | e :: es =>
    let (answer, d) := c.takeEdit e
    let (d, rejections) := d.takeEdits es
    match answer with
    | .ok () => (d, rejections)
    | .error f => (d, ⟨e, f⟩ :: rejections)

end BeanDoc
