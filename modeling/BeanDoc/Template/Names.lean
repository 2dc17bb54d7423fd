/-! The names under which templates find filters and tests. Filters and tests can be asked for each
other's names, so these are known before either of them. -/

namespace BeanDoc.Template

def filterNames : List String :=
  ["safe", "escape", "e", "upper", "lower", "title", "capitalize", "trim", "replace", "length",
    "count", "default", "d", "first", "last", "reverse", "join", "split", "lines", "list", "sort",
    "unique", "min", "max", "sum", "items", "dictsort", "abs", "round", "int", "float", "string",
    "bool", "indent", "attr", "batch", "slice", "select", "reject", "selectattr", "rejectattr",
    "groupby", "chain", "zip", "pprint", "map"]

def testNames : List String :=
  ["undefined", "defined", "none", "safe", "escaped", "boolean", "odd", "even", "divisibleby",
    "number", "integer", "float", "string", "sequence", "iterable", "mapping", "startingwith",
    "endingwith", "lower", "upper", "sameas", "eq", "equalto", "==", "ne", "!=", "lt", "lessthan",
    "<", "le", "<=", "gt", "greaterthan", ">", "ge", ">=", "in", "true", "false", "filter", "test"]

theorem isSome_lookup_iff {α : Type} {table : List (String × α)} {name : String} :
    (table.lookup name).isSome ↔ name ∈ table.map Prod.fst := by
  rw [List.lookup_isSome_iff, List.mem_map]
  constructor
  · rintro ⟨p, hp, hname⟩
    exact ⟨p, hp, (eq_of_beq hname).symm⟩
  · rintro ⟨p, hp, rfl⟩
    exact ⟨p, hp, beq_self_eq_true p.1⟩

end BeanDoc.Template
