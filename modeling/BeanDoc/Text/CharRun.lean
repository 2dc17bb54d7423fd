/-! Sets of characters and maps between them, written as runs of code points. Properties of the
character standard are short lists of such runs. -/

namespace BeanDoc.Text

/-- The code points `first`, `first + stride`, and so on, up to `last`. -/
structure CharRun where
  first : Nat
  last : Nat
  stride : Nat

def CharRun.covers (r : CharRun) (n : Nat) : Bool :=
  r.first ≤ n && n ≤ r.last && (n - r.first) % r.stride == 0

def inRuns (runs : List CharRun) (c : Char) : Bool :=
  runs.any (·.covers c.toNat)

/-- A run that is moved as a whole, its first code point to `image`. -/
structure CaseRun where
  run : CharRun
  image : Nat

def imageIn (runs : List CaseRun) (n : Nat) : Option Nat :=
  (runs.find? (·.run.covers n)).map fun r => r.image + (n - r.run.first)

end BeanDoc.Text
