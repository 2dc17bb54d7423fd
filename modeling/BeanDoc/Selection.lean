import BeanDoc.ClassModel

/-! Selection of methods among the candidates that are offered. -/

namespace BeanDoc

structure Selection where
  methods : List Nat
  overwrite : Bool
  deriving DecidableEq, Repr

/-- Chooses among candidates; `none` cancels. -/
abbrev Selector := ClassModel → (candidates : List Nat) → Option Selection

namespace Selector

def all (overwrite : Bool) : Selector :=
  fun _ candidates => some ⟨candidates, overwrite⟩

def named (names : List String) (overwrite : Bool) : Selector :=
  fun c candidates =>
    let chosen := candidates.filter fun i => (c.methods[i]?).any fun m => names.contains m.name
    some ⟨chosen, overwrite⟩

def fixed (methods : List Nat) (overwrite : Bool) : Selector :=
  fun _ _ => some ⟨methods, overwrite⟩

def cancel : Selector :=
  fun _ _ => none

end Selector

end BeanDoc
