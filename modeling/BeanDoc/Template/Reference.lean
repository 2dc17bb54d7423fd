/-! References to a variable in plain text: `$name`, `${name}`, and the quiet forms `$!name` and
`$!{name}`, where the name may be a dotted path. -/

namespace BeanDoc.Template

structure Reference where
  quiet : Bool
  braced : Bool
  path : List Char
  deriving DecidableEq, Repr

namespace Reference

def spelling (r : Reference) : List Char :=
  ['$'] ++ (if r.quiet then ['!'] else []) ++
    (if r.braced then ['{'] ++ r.path ++ ['}'] else r.path)

def isNameChar (c : Char) : Bool :=
  c.isAlphanum || c == '_'

def identifier? : List Char → Option (List Char × List Char)
  | [] => none
  | c :: cs =>
    if c.isAlpha then some (c :: cs.takeWhile isNameChar, cs.dropWhile isNameChar) else none

theorem identifier?_append {cs name rest : List Char} (h : identifier? cs = some (name, rest)) :
    cs = name ++ rest := by
  cases cs with
  | nil => simp [identifier?] at h
  | cons c cs =>
    simp only [identifier?] at h
    split at h
    · obtain ⟨rfl, rfl⟩ := by simpa using h
      simp
    · simp at h

/-- The dotted identifiers that continue a path, and what follows them. A dot that no identifier
follows does not belong to the path. -/
def segments (cs : List Char) : List Char × List Char :=
  match cs with
  | '.' :: after =>
    match _h : identifier? after with
    | some (name, rest) =>
      let (more, rest) := segments rest
      ('.' :: name ++ more, rest)
    | none => ([], '.' :: after)
  | cs => ([], cs)
termination_by cs.length
decreasing_by
  have := congrArg List.length (identifier?_append _h)
  simp at this ⊢
  omega

theorem segments_append (cs : List Char) : (segments cs).1 ++ (segments cs).2 = cs := by
  fun_induction segments cs with
  | case1 after name rest h more rest' hs ih =>
    rw [hs] at ih
    simp only at ih
    simp [identifier?_append h, ← ih]
  | case2 => simp
  | case3 => simp

def path? (cs : List Char) : Option (List Char × List Char) :=
  match identifier? cs with
  | none => none
  | some (name, rest) => some (name ++ (segments rest).1, (segments rest).2)

theorem path?_append {cs path rest : List Char} (h : path? cs = some (path, rest)) :
    cs = path ++ rest := by
  unfold path? at h
  split at h
  · simp at h
  · next name tail hi =>
    obtain ⟨rfl, rfl⟩ := by simpa using h
    rw [identifier?_append hi, List.append_assoc, segments_append]

def target? (quiet : Bool) (cs : List Char) : Option (Reference × List Char) :=
  match cs with
  | '{' :: cs =>
    match path? cs with
    | some (path, '}' :: rest) => some (⟨quiet, true, path⟩, rest)
    | _ => none
  | cs => (path? cs).map fun (path, rest) => (⟨quiet, false, path⟩, rest)

def read? : List Char → Option (Reference × List Char)
  | '$' :: '!' :: cs => target? true cs
  | '$' :: cs => target? false cs
  | _ => none

theorem target?_append {quiet : Bool} {cs rest : List Char} {r : Reference}
    (h : target? quiet cs = some (r, rest)) :
    ['$'] ++ (if quiet then ['!'] else []) ++ cs = r.spelling ++ rest := by
  unfold target? at h
  split at h
  · split at h
    · next path rest' hp =>
      obtain ⟨rfl, rfl⟩ := by simpa using h
      simp [spelling, path?_append hp]
    · simp at h
  · obtain ⟨⟨path, tail⟩, hp, hr⟩ := Option.map_eq_some_iff.1 h
    obtain ⟨rfl, rfl⟩ := by simpa using hr
    simp [spelling, path?_append hp]

theorem read?_append {cs rest : List Char} {r : Reference} (h : read? cs = some (r, rest)) :
    cs = r.spelling ++ rest := by
  unfold read? at h
  split at h
  · simpa using target?_append h
  · simpa using target?_append h
  · simp at h

theorem spelling_length_pos (r : Reference) : 0 < r.spelling.length := by
  simp only [spelling, List.length_append, List.length_cons, List.length_nil]
  omega

theorem read?_length_lt {cs rest : List Char} {r : Reference} (h : read? cs = some (r, rest)) :
    rest.length < cs.length := by
  have := congrArg List.length (read?_append h)
  have := spelling_length_pos r
  simp only [List.length_append] at *
  omega

end Reference

end BeanDoc.Template
