import BeanDoc.Json.Printer
import BeanDoc.Json.Tagged

/-! Events that a run leaves behind, and their JSON form: an object whose member `type` says which
event it is. -/

namespace BeanDoc

structure Counts where
  inserted : Nat := 0
  replaced : Nat := 0
  skipped : Nat := 0
  failed : Nat := 0
  deriving DecidableEq, Repr

inductive Event where
  | schemaVersionRecorded (version : String)
  | commentsGenerated (className : String) (counts : Counts)
  | templateSaved (template : String)
  deriving DecidableEq, Repr

namespace Event

open Json

def toJson : Event → Value
  | schemaVersionRecorded version =>
    .object [("type", .string "schema_version_recorded"), ("schema_version", .string version)]
  | commentsGenerated className counts =>
    .object [
      ("type", .string "doc_comments_generated"),
      ("class_name", .string className),
      ("inserted", .ofNat counts.inserted),
      ("replaced", .ofNat counts.replaced),
      ("skipped", .ofNat counts.skipped),
      ("failed", .ofNat counts.failed)]
  | templateSaved template =>
    .object [("type", .string "template_saved"), ("category", .string template)]

def line (e : Event) : String :=
  e.toJson.render

def withText (s : String) : Event → Event
  | schemaVersionRecorded _ => schemaVersionRecorded s
  | commentsGenerated _ counts => commentsGenerated s counts
  | templateSaved _ => templateSaved s

def mapCounts (f : Counts → Counts) : Event → Event
  | commentsGenerated className counts => commentsGenerated className (f counts)
  | e => e

def textField (name : String) : Decoder.Field Event :=
  ⟨name, true, .map withText .string⟩

def countField (name : String) (set : Nat → Counts → Counts) : Decoder.Field Event :=
  ⟨name, true, .map (fun n => mapCounts (set n)) .nat⟩

def forms : Tagged Event where
  tag := "type"
  title := "internally tagged enum TelemetryEvent"
  forms := [
    ("schema_version_recorded", {
      title := "struct variant TelemetryEvent::SchemaVersionRecorded"
      fields := [textField "schema_version"]
      empty := schemaVersionRecorded "" }),
    ("doc_comments_generated", {
      title := "struct variant TelemetryEvent::DocCommentsGenerated"
      fields := [
        textField "class_name",
        countField "inserted" fun n c => { c with inserted := n },
        countField "replaced" fun n c => { c with replaced := n },
        countField "skipped" fun n c => { c with skipped := n },
        countField "failed" fun n c => { c with failed := n }]
      empty := commentsGenerated "" {} }),
    ("template_saved", {
      title := "struct variant TelemetryEvent::TemplateSaved"
      fields := [textField "category"]
      empty := templateSaved "" })]

def parse (text : String) : Except Fault Event :=
  forms.parse text

end Event

end BeanDoc
