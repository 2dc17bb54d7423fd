import BeanDoc.ClassModel
import BeanDoc.Json.Decoder
import BeanDoc.Json.Printer

/-! The JSON form of classes. A class file is the indented JSON of one class. -/

namespace BeanDoc

open Json

def Parameter.toJson (p : Parameter) : Value :=
  .object [("name", .string p.name), ("type", .string p.type)]

def Method.toJson (m : Method) : Value :=
  .object [
    ("name", .string m.name),
    ("parameters", .array (m.parameters.map Parameter.toJson)),
    ("return_type", .ofText? m.returnType),
    ("annotations", .array (m.annotations.map .string)),
    ("doc_comment", .ofText? m.comment)]

def ClassModel.toJson (c : ClassModel) : Value :=
  .object [
    ("name", .string c.name),
    ("qualified_name", .string c.qualifiedName),
    ("is_interface", .bool c.isInterface),
    ("methods", .array (c.methods.map Method.toJson))]

def Parameter.decoder : Decoder Parameter :=
  .record {
    title := "struct Parameter"
    fields := [
      ⟨"name", true, .map (fun s p => { p with name := s }) .string⟩,
      ⟨"type", true, .map (fun s p => { p with type := s }) .string⟩]
    empty := ⟨"", ""⟩ }

def Method.decoder : Decoder Method :=
  .record {
    title := "struct MethodDescriptor"
    fields := [
      ⟨"name", false, .map (fun s m => { m with name := s }) .string⟩,
      ⟨"parameters", false,
        .map (fun ps m => { m with parameters := ps }) (.list Parameter.decoder)⟩,
      ⟨"return_type", false, .map (fun t m => { m with returnType := t }) (.option .string)⟩,
      ⟨"annotations", false, .map (fun as m => { m with annotations := as }) (.list .string)⟩,
      ⟨"doc_comment", false, .map (fun c m => { m with comment := c }) (.option .string)⟩]
    empty := {} }

def ClassModel.decoder : Decoder ClassModel :=
  .record {
    title := "struct ClassDescriptor"
    fields := [
      ⟨"name", false, .map (fun s c => { c with name := s }) .string⟩,
      ⟨"qualified_name", false, .map (fun s c => { c with qualifiedName := s }) .string⟩,
      ⟨"is_interface", false, .map (fun b c => { c with isInterface := b }) .bool⟩,
      ⟨"methods", false, .map (fun ms c => { c with methods := ms }) (.list Method.decoder)⟩]
    empty := {} }

def ClassModel.print (c : ClassModel) : String :=
  c.toJson.renderPretty

def ClassModel.parse (text : String) : Except Fault ClassModel :=
  ClassModel.decoder.parse text

end BeanDoc
