import BeanDoc.Proofs.TemplatePieces
import BeanDoc.Template.Context
import Mathlib.Data.List.Infix

/-! Templates of plain text and references only. Each reference is to one of the variables, and the
text behind it does not go on where its path ends. -/

namespace BeanDoc.Template

inductive Variable where
  | field
  | fieldType
  | className
  | fullClassName
  | projectName
  deriving DecidableEq, Repr

namespace Variable

def name : Variable → String
  | field => "field"
  | fieldType => "field_type"
  | className => "class_name"
  | fullClassName => "full_class_name"
  | projectName => "project_name"

def value? (c : Context) : Variable → Option String
  | field => c.field
  | fieldType => c.fieldType
  | className => some c.className
  | fullClassName => some c.fullClassName
  | projectName => some c.projectName

end Variable

structure Slot where
  target : Variable
  quiet : Bool
  braced : Bool
  after : List Char
  deriving DecidableEq, Repr

structure IsVerbatim (cs : List Char) : Prop where
  noReference : '$' ∉ cs
  noEscape : '\\' ∉ cs
  noBlock : ∀ b : Block, ¬ ['{', b.opener] <:+: cs

instance (cs : List Char) : Decidable (IsVerbatim cs) :=
  decidable_of_iff ('$' ∉ cs ∧ '\\' ∉ cs ∧
      ∀ b ∈ [Block.output, .statement, .comment], ¬ ['{', b.opener] <:+: cs)
    ⟨fun h => ⟨h.1, h.2.1, fun b => h.2.2 b (by cases b <;> simp)⟩,
      fun h => ⟨h.noReference, h.noEscape, fun b _ => h.noBlock b⟩⟩

/-- Plain text and references in turn. No `{` stands directly before a reference. -/
inductive Alternates : List Char → List Slot → Prop
  | text {cs : List Char} (hcs : IsVerbatim cs) : Alternates cs []
  | slot {cs : List Char} {s : Slot} {slots : List Slot} (hcs : IsVerbatim cs)
      (hbrace : cs.getLast? ≠ some '{') (hend : s.braced = true ∨ continuesPath s.after = false)
      (rest : Alternates s.after slots) : Alternates cs (s :: slots)

namespace Slot

def reference (s : Slot) : Reference :=
  ⟨s.quiet, s.braced, s.target.name.toList⟩

def source (s : Slot) : List Char :=
  s.reference.spelling ++ s.after

def expanded (s : Slot) : List Char :=
  ['{', '{', ' '] ++ s.target.name.toList ++ [' ', '}', '}'] ++ s.after

def filled (c : Context) (s : Slot) : List Char :=
  ((s.target.value? c).getD "").toList ++ s.after

end Slot

structure ReferenceTemplate where
  lead : List Char
  slots : List Slot
  alternates : Alternates lead slots

namespace ReferenceTemplate

def source (t : ReferenceTemplate) : String :=
  String.ofList (t.lead ++ t.slots.flatMap Slot.source)

def filled (c : Context) (t : ReferenceTemplate) : String :=
  String.ofList (t.lead ++ t.slots.flatMap (Slot.filled c))

end ReferenceTemplate

theorem Variable.name_isDottedPath (v : Variable) : Reference.IsDottedPath v.name.toList := by
  cases v <;> decide +kernel

theorem continuesPath_append {cs rest : List Char} (h : continuesPath cs = false)
    (hrest : ∀ c ∈ rest.head?, c = '$') : continuesPath (cs ++ rest) = false := by
  have hnext : continuesPath rest = false ∧ rest.head?.any Char.isAlpha = false := by
    cases rest with
    | nil => exact ⟨rfl, rfl⟩
    | cons c rest =>
      obtain rfl := hrest c rfl
      exact ⟨rfl, rfl⟩
  rcases cs with _ | ⟨c, _ | ⟨d, cs⟩⟩
  · exact hnext.1
  · simp_all [continuesPath]
  · exact h

theorem IsVerbatim.tail {c : Char} {cs : List Char} (h : IsVerbatim (c :: cs)) : IsVerbatim cs :=
  ⟨fun hmem => h.noReference (List.mem_cons_of_mem c hmem),
    fun hmem => h.noEscape (List.mem_cons_of_mem c hmem),
    fun b hb => h.noBlock b (hb.trans (List.suffix_cons c cs).isInfix)⟩

theorem IsVerbatim.opensNone {cs rest : List Char} (h : IsVerbatim cs)
    (hrest : ∀ c ∈ rest.head?, c = '$') : OpensNone rest cs := by
  refine opensNone_of_noBlock h.noBlock ?_
  cases rest with
  | nil => rfl
  | cons d rest => rw [hrest d rfl]; rfl

theorem scan_verbatim {cs rest : List Char} (h : IsVerbatim cs)
    (hrest : ∀ c ∈ rest.head?, c = '$') :
    scan .text (cs ++ rest) = cs.map Piece.plain ++ scan .text rest :=
  scan_eq_of_scanned (scanned_plain_append (h.opensNone hrest) h.noReference h.noEscape
    (scanned_scan .text rest))

theorem head?_source {slots : List Slot} : ∀ c ∈ (slots.flatMap Slot.source).head?, c = '$' := by
  cases slots with
  | nil => simp
  | cons s slots => simp [Slot.source, Reference.spelling]

theorem read?_slot {s : Slot} (hend : s.braced = true ∨ continuesPath s.after = false)
    (slots : List Slot) :
    Reference.read? (s.reference.spelling ++ (s.after ++ slots.flatMap Slot.source)) =
      some (s.reference, s.after ++ slots.flatMap Slot.source) := by
  have hafter : s.braced = true ∨ continuesPath (s.after ++ slots.flatMap Slot.source) = false :=
    hend.imp_right fun hstop => continuesPath_append hstop head?_source
  exact Reference.read?_spelling s.target.name_isDottedPath hafter

theorem expanded_scan {cs : List Char} {slots : List Slot} (h : Alternates cs slots) :
    (scan .text (cs ++ slots.flatMap Slot.source)).flatMap Piece.expanded =
      cs ++ slots.flatMap Slot.expanded := by
  induction h with
  | text hcs =>
    rw [scan_verbatim hcs (by simp), List.flatMap_append, expanded_map_plain, List.flatMap_nil,
      scan]
    rfl
  | @slot cs s slots hcs hbrace hend rest ih =>
    have hscan : scan .text (s.reference.spelling ++ (s.after ++ slots.flatMap Slot.source)) =
        .reference .text s.reference :: scan .text (s.after ++ slots.flatMap Slot.source) :=
      scan_eq_of_scanned (.reference (read?_slot hend slots) (scanned_scan .text _))
    rw [scan_verbatim hcs head?_source, List.flatMap_append, expanded_map_plain, List.flatMap_cons,
      Slot.source, List.append_assoc, hscan, List.flatMap_cons, ih, List.flatMap_cons,
      Slot.expanded, List.append_assoc]
    rfl

theorem expand_source (t : ReferenceTemplate) :
    expand t.source = String.ofList (t.lead ++ t.slots.flatMap Slot.expanded) := by
  rw [expand, ReferenceTemplate.source, String.toList_ofList, expanded_scan t.alternates]

end BeanDoc.Template
