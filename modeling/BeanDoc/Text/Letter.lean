import BeanDoc.Text.Alphabetic
import BeanDoc.Text.Cased
import BeanDoc.Text.CaseIgnorable
import BeanDoc.Text.LowerMap
import BeanDoc.Text.Lowercase
import BeanDoc.Text.Numeric
import BeanDoc.Text.UpperMap
import BeanDoc.Text.Uppercase

/-! Letters: their classes, and the lower and upper case of characters and texts. -/

namespace BeanDoc.Text

def isUppercase (c : Char) : Bool :=
  if c.toNat < 128 then c.isUpper else inRuns uppercaseRuns c

def isLowercase (c : Char) : Bool :=
  if c.toNat < 128 then c.isLower else inRuns lowercaseRuns c

def isAlphanumeric (c : Char) : Bool :=
  if c.toNat < 128 then c.isAlphanum
  else inRuns alphabeticRuns c || inRuns numericRuns c

def mapCase (runs : List CaseRun) (expansions : List (Nat × List Nat)) (c : Char) : List Char :=
  match imageIn runs c.toNat with
  | some n => [Char.ofNat n]
  | none => ((expansions.lookup c.toNat).map (·.map Char.ofNat)).getD [c]

def lowerChar (c : Char) : List Char :=
  if c.toNat < 128 then [c.toLower] else mapCase lowerRuns lowerExpansions c

def upperChar (c : Char) : List Char :=
  if c.toNat < 128 then [c.toUpper] else mapCase upperRuns upperExpansions c

def meetsCased (cs : List Char) : Bool :=
  match cs.dropWhile (inRuns caseIgnorableRuns) with
  | [] => false
  | c :: _ => inRuns casedRuns c

/-- The lower case of a text whose preceding characters, nearest first, are `before`. -/
def lowerFrom (before : List Char) : List Char → List Char
  | [] => []
  | c :: cs =>
    let here :=
      if c = 'Σ' then
        -- one that ends a word has a form of its own
        if meetsCased before && !meetsCased cs then ['ς'] else ['σ']
      else lowerChar c
    here ++ lowerFrom (c :: before) cs

def lower (cs : List Char) : List Char :=
  lowerFrom [] cs

def upper (cs : List Char) : List Char :=
  cs.flatMap upperChar

end BeanDoc.Text
