/-! The integers that fit words of a given number of bits. -/

namespace BeanDoc.Decimal

def wordCount (bits : Nat) : Nat :=
  Nat.pow 2 bits

def leastSigned (bits : Nat) : Int :=
  -(wordCount (bits - 1) : Int)

def greatestSigned (bits : Nat) : Int :=
  (wordCount (bits - 1) : Int) - 1

def fitsSigned (bits : Nat) (i : Int) : Bool :=
  leastSigned bits ≤ i && i ≤ greatestSigned bits

end BeanDoc.Decimal
