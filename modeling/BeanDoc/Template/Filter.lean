import BeanDoc.Template.Filter.Items

/-! The filters by name. -/

namespace BeanDoc.Template

namespace Filter

/-- A filter whose named arguments count as one map behind the others. -/
def plain (f : List Value → Except EvalFault Value) (a : Arguments) : Except EvalFault Value :=
  f a.values

/-- All filters but `map`. The value comes as the first argument. -/
def table : List (String × (Arguments → Except EvalFault Value)) :=
  [("safe", plain safe),
    ("escape", plain (onValue escape)),
    ("e", plain (onValue escape)),
    ("upper", plain (onText Text.upper)),
    ("lower", plain (onText Text.lower)),
    ("title", plain (onText (titleFrom true))),
    ("capitalize", plain (onText capitalizeText)),
    ("trim", plain trim),
    ("replace", plain replace),
    ("length", plain (onValue length)),
    ("count", plain (onValue length)),
    ("default", plain default),
    ("d", plain default),
    ("first", plain (onValue first)),
    ("last", plain (onValue last)),
    ("reverse", plain (onValue reverse)),
    ("join", plain join),
    ("split", plain split),
    ("lines", plain (onValue lines)),
    ("list", plain (onValue fun v => (listItems v).map .seq)),
    ("sort", sort),
    ("unique", unique),
    ("min", plain (onValue fun v => (listItems v).map least)),
    ("max", plain (onValue fun v => (listItems v).map greatest)),
    ("sum", plain (onValue fun v => v.iterate >>= sumItems (.ofInt 0))),
    ("items", plain (onValue items)),
    ("dictsort", dictsort),
    ("abs", plain (onValue abs)),
    ("round", plain round),
    ("int", plain (onValue int)),
    ("float", plain (onValue float)),
    ("string", plain (onValue string)),
    ("bool", plain (onValue fun v => .ok (.bool v.isTrue))),
    ("indent", indent),
    ("attr", plain attr),
    ("batch", plain batch),
    ("slice", plain slice),
    ("select", plain (select true)),
    ("reject", plain (select false)),
    ("selectattr", plain (selectAttribute true)),
    ("rejectattr", plain (selectAttribute false)),
    ("groupby", groupby),
    ("chain", plain chain),
    ("zip", plain zip),
    ("pprint", plain (onValue fun v => .ok (.string (v.pretty ""))))]

/-- The filter with the given name. One argument of `map` is used up each time that it is applied
again. -/
def find? (name : String) : Option (Arguments → Except EvalFault Value) :=
  if name = "map" then some fun a => map table a.values.length a else table.lookup name

theorem map_fst_table : table.map Prod.fst ++ ["map"] = filterNames :=
  rfl

theorem isSome_find?_iff {name : String} : (find? name).isSome ↔ name ∈ filterNames := by
  unfold find?
  rw [← map_fst_table, List.mem_append, List.mem_singleton]
  split
  case isTrue hname => simp [hname]
  case isFalse hname => rw [isSome_lookup_iff, or_iff_left hname]

def apply (name : String) (v : Value) (vs : List Value) : Except EvalFault Value :=
  match find? name with
  | none => .error (.unknownFilter name)
  | some f => f (.ofValues (v :: vs))

end Filter

end BeanDoc.Template
