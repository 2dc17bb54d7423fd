import BeanDoc.Files.Path

/-! Files and directories below a root, as far as a run can see them. -/

namespace BeanDoc

inductive FileFault where
  | notFound
  | isDirectory
  | notDirectory
  | noFileName
  | nameTooLong
  | nulInPath
  | nulInName
  | notText
  deriving DecidableEq, Repr

def FileFault.message : FileFault → String
  | notFound => "No such file or directory (os error 2)"
  | isDirectory => "Is a directory (os error 21)"
  | notDirectory => "Not a directory (os error 20)"
  | noFileName => "path has no file name"
  | nameTooLong => "File name too long (os error 36)"
  | nulInPath => "file name contained an unexpected NUL byte"
  | nulInName => "Invalid argument (os error 22)"
  | notText => "stream did not contain valid UTF-8"

inductive FileNode (α : Type) where
  | directory
  | file (content : α)
  deriving Repr

/-- The nodes of a tree, each under its components from the root, and the current directory. -/
structure FileTree (α : Type) where
  nodes : List (List String × FileNode α)
  current : List String := []

namespace FileTree

variable {α : Type}

def empty : FileTree α :=
  ⟨[], []⟩

def node? (t : FileTree α) (place : List String) : Option (FileNode α) :=
  if place.isEmpty then some .directory else t.nodes.lookup place

def put (t : FileTree α) (place : List String) (n : FileNode α) : FileTree α :=
  if (t.nodes.lookup place).isSome then
    { t with nodes := t.nodes.map fun (p, m) => if p = place then (p, n) else (p, m) }
  else { t with nodes := t.nodes ++ [(place, n)] }

theorem lookup_replace (place p : List String) (n : FileNode α)
    (nodes : List (List String × FileNode α)) :
    (nodes.map fun (q, m) => if q = place then (q, n) else (q, m)).lookup p =
      if p = place then (nodes.lookup p).map fun _ => n else nodes.lookup p := by
  induction nodes with
  | nil => simp
  | cons node nodes ih =>
    obtain ⟨q, m⟩ := node
    by_cases hp : p = q
    · subst hp
      by_cases hq : p = place <;> simp [hq]
    · have hb : (p == q) = false := beq_eq_false_iff_ne.mpr hp
      by_cases hq : q = place
      · simpa only [List.map_cons, List.lookup_cons, hb, if_pos hq] using ih
      · simpa only [List.map_cons, List.lookup_cons, hb, if_neg hq] using ih

theorem replace_eq_self {place : List String} {nodes : List (List String × FileNode α)}
    (h : nodes.lookup place = none) (n : FileNode α) :
    (nodes.map fun (q, m) => if q = place then (q, n) else (q, m)) = nodes := by
  refine (List.map_congr_left fun node hnode => ?_).trans (List.map_id nodes)
  have hne : node.1 ≠ place := by
    rintro rfl
    simpa using List.lookup_eq_none_iff.1 h node hnode
  exact if_neg hne

theorem lookup_append_single (place p : List String) (n : FileNode α)
    (nodes : List (List String × FileNode α)) (h : nodes.lookup place = none) :
    (nodes ++ [(place, n)]).lookup p = if p = place then some n else nodes.lookup p := by
  induction nodes with
  | nil =>
    by_cases hp : p = place
    · simp [hp]
    · have : (p == place) = false := beq_eq_false_iff_ne.mpr hp
      simp [List.lookup_cons, hp, this]
  | cons node nodes ih =>
    obtain ⟨q, m⟩ := node
    by_cases hq : place = q
    · simp [hq] at h
    · have hb : (place == q) = false := beq_eq_false_iff_ne.mpr hq
      have h' : nodes.lookup place = none := by simpa [List.lookup_cons, hb] using h
      by_cases hp : p = q
      · subst hp
        simp [Ne.symm hq]
      · have : (p == q) = false := beq_eq_false_iff_ne.mpr hp
        simp [List.lookup_cons, this, ih h']

theorem node?_put (t : FileTree α) {place : List String} (hp : place ≠ []) (n : FileNode α)
    (p : List String) : (t.put place n).node? p = if p = place then some n else t.node? p := by
  by_cases he : p = []
  · simp [node?, he, Ne.symm hp]
  · simp only [node?, List.isEmpty_iff, he, if_false]
    cases hs : t.nodes.lookup place with
    | none => simpa [put, hs] using lookup_append_single place p n t.nodes hs
    | some m =>
      simp only [put, hs, Option.isSome_some, if_true, lookup_replace]
      split
      · next h => simp [h, hs]
      · rfl

theorem put_put (t : FileTree α) (place : List String) (m n : FileNode α) :
    (t.put place m).put place n = t.put place n := by
  unfold put
  cases hlookup : t.nodes.lookup place with
  | some old =>
    have hfound := lookup_replace place place m t.nodes
    rw [if_pos rfl, hlookup] at hfound
    simp only [Option.isSome_some, if_true, hfound, Option.map_some, List.map_map]
    congr 1
    refine List.map_congr_left fun node _ => ?_
    simp only [Function.comp_apply]
    split <;> simp_all
  | none =>
    have hfound := lookup_append_single place place m t.nodes hlookup
    rw [if_pos rfl] at hfound
    simp only [Option.isSome_none, Bool.false_eq_true, if_false, hfound, Option.isSome_some,
      if_true, List.map_append, replace_eq_self hlookup]
    simp

/-- Goes on from a directory along components. Two dots lead back, and above the root there is
nothing else. -/
def walk (t : FileTree α) (place : List String) : List String → Except FileFault (List String)
  | [] => .ok place
  | c :: cs =>
    if Path.isTooLong c then .error .nameTooLong
    else
      let next := if c = ".." then place.dropLast else place ++ [c]
      match t.node? next with
      | none => .error .notFound
      | some .directory => t.walk next cs
      | some (.file _) => .error .notDirectory

def openDirectory (t : FileTree α) (path : String) : Except FileFault (List String) :=
  if Path.hasNul path then .error .nulInPath
  else if path.utf8ByteSize ≥ Path.lengthLimit then .error .nameTooLong
  else t.walk (if Path.isAbsolute path then [] else t.current) (Path.components path)

def nodeIn (t : FileTree α) (directory : List String) (name : String) :
    Except FileFault (Option (FileNode α)) :=
  if Path.hasNul name then .error .nulInName
  else if Path.isTooLong name then .error .nameTooLong
  else .ok (t.node? (directory ++ [name]))

def readIn (t : FileTree α) (directory : List String) (name : String) : Except FileFault α :=
  match t.nodeIn directory name with
  | .error f => .error f
  | .ok none => .error .notFound
  | .ok (some .directory) => .error .isDirectory
  | .ok (some (.file content)) => .ok content

def writeIn (t : FileTree α) (directory : List String) (name : String) (content : α) :
    Except FileFault (FileTree α) :=
  match t.nodeIn directory name with
  | .error f => .error f
  | .ok (some .directory) => .error .isDirectory
  | .ok _ => .ok (t.put (directory ++ [name]) (.file content))

def makeDirectories (t : FileTree α) : (done rest : List String) → FileTree α
  | _, [] => t
  | done, c :: cs =>
    let next := done ++ [c]
    let t := match t.node? next with | some _ => t | none => t.put next .directory
    t.makeDirectories next cs

/-- Adds a file, or a directory if the name ends in a separator, and the directories that lead to
it. The name is taken from the current directory. -/
def add (t : FileTree α) (name : String) (content : α) : FileTree α :=
  let place := t.current ++ Path.components name
  if name.toList.getLast? == some '/' then t.makeDirectories [] place
  else (t.makeDirectories [] place.dropLast).put place (.file content)

def ofFiles (current : List String) (files : List (String × α)) : FileTree α :=
  files.foldl (fun t (name, content) => t.add name content)
    ({ (empty : FileTree α) with current := current }.makeDirectories [] current)

def relative? : (directory place : List String) → Option (List String)
  | [], place => some place
  | d :: ds, p :: ps => if d = p then relative? ds ps else none
  | _ :: _, [] => none

def files (t : FileTree α) : List (String × α) :=
  t.nodes.filterMap fun (place, n) =>
    match n, relative? t.current place with
    | .file content, some name => some (String.intercalate "/" name, content)
    | _, _ => none

end FileTree

end BeanDoc
