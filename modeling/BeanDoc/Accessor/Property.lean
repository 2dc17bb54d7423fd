import BeanDoc.Text.Letter
import BeanDoc.Text.Split

/-! Property names behind accessor names. A property name is what follows `get`, `is` or `set`,
with its first letter in lower case unless the second is upper case as well. -/

namespace BeanDoc.Accessor

structure Property where
  name : String
  type : String
  deriving DecidableEq, Repr

/-- The property name for a capitalised name: `Bar` gives `bar`, and `URL` stays. -/
def decapitalize (first : Char) (rest : List Char) : List Char :=
  match rest with
  | [] => Text.lowerChar first
  | second :: _ => if Text.isUppercase second then first :: rest else Text.lowerChar first ++ rest

def propertyAfter (lead : String) (name : String) : Option String :=
  match Text.after? lead.toList name.toList with
  | some (first :: rest) =>
    if Text.isUppercase first then some (String.ofList (decapitalize first rest)) else none
  | _ => none

end BeanDoc.Accessor
