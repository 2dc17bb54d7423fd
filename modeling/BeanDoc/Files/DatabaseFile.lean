import BeanDoc.Files.Content
import BeanDoc.Json.Decoder
import BeanDoc.Json.Printer

/-! Database files on disk: a first line that tells them apart from other texts, and a JSON object.
-/

namespace BeanDoc

open Json

namespace TemplateTable

def rowsToJson (rows : List (String × Option String)) : Value :=
  .array (rows.map fun (key, text) => .array [.string key, .ofText? text])

def rowDecoder : Decoder (String × Option String) :=
  .record {
    title := "a row"
    fields := [
      ⟨"key", true, .map (fun key row => (key, row.2)) .string⟩,
      ⟨"template", true, .map (fun text row => (row.1, text)) (.option .string)⟩]
    empty := ("", none) }

end TemplateTable

namespace Database

def header : String :=
  "template database 1\n"

structure Parts where
  relation : String := "absent"
  table : TemplateTable := {}
  versions : List String := []

def Parts.toDatabase (p : Parts) : Database where
  versions := p.versions
  templates :=
    if p.relation = "table" then .table p.table
    else if p.relation = "view" then .view p.table.rows
    else .absent

def toParts (d : Database) : Parts :=
  match d.templates with
  | .absent => { versions := d.versions }
  | .table t => { versions := d.versions, relation := "table", table := t }
  | .view rows => { versions := d.versions, relation := "view", table := { rows := rows } }

def toJson (d : Database) : Value :=
  let p := d.toParts
  .object [
    ("versions", .array (p.versions.map .string)),
    ("relation", .string p.relation),
    ("rows", TemplateTable.rowsToJson p.table.rows),
    ("has_texts", .bool p.table.hasTexts),
    ("has_unique_keys", .bool p.table.hasUniqueKeys),
    ("refusal", .ofText? p.table.refusal)]

def partsDecoder : Decoder Parts :=
  .record {
    title := "a database"
    fields := [
      ⟨"versions", true, .map (fun x p => { p with versions := x }) (.list .string)⟩,
      ⟨"relation", true, .map (fun x p => { p with relation := x }) .string⟩,
      ⟨"rows", true, .map (fun x p => { p with table := { p.table with rows := x } })
        (.list TemplateTable.rowDecoder)⟩,
      ⟨"has_texts", true,
        .map (fun x p => { p with table := { p.table with hasTexts := x } }) .bool⟩,
      ⟨"has_unique_keys", true,
        .map (fun x p => { p with table := { p.table with hasUniqueKeys := x } }) .bool⟩,
      ⟨"refusal", true, .map (fun x p => { p with table := { p.table with refusal := x } })
        (.option .string)⟩]
    empty := {} }

def print (d : Database) : String :=
  header ++ d.toJson.render ++ "\n"

def ofText? (s : String) : Option Database :=
  match Text.after? header.toList s.toList with
  | none => none
  | some rest =>
    match partsDecoder.parse (String.ofList rest) with
    | .ok p => some p.toDatabase
    | .error _ => none

end Database

namespace FileContent

def ofText (s : String) : FileContent :=
  match Database.ofText? s with
  | some d => .database d
  | none => .text s

/-- The text to write for a content; other bytes are never written. -/
def print? : FileContent → Option String
  | text s => some s
  | database d => some d.print
  | binary => none

end FileContent

end BeanDoc
