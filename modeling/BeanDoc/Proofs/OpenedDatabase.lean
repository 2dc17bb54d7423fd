import BeanDoc.Command.OpenStore

/-! Where a database is depends on the shape of the files only, that is on where there are
directories and where there are files. Opening a database leaves all files as they are, but a
database that was not there has an empty file from then on. -/

namespace BeanDoc

def FileNode.isDirectory {α : Type} : FileNode α → Bool
  | .directory => true
  | .file _ => false

namespace FileTree

section
variable {α : Type} {t u : FileTree α}

structure SameShape (t u : FileTree α) : Prop where
  current : t.current = u.current
  nodes : ∀ place,
    (t.node? place).map FileNode.isDirectory = (u.node? place).map FileNode.isDirectory

theorem current_put (t : FileTree α) (place : List String) (n : FileNode α) :
    (t.put place n).current = t.current := by
  unfold put
  split <;> rfl

theorem node?_nil (t : FileTree α) : t.node? [] = some .directory :=
  rfl

theorem sameShape_put {place : List String} {old : α} (h : t.node? place = some (.file old))
    (new : α) : (t.put place (.file new)).SameShape t where
  current := current_put t place _
  nodes := by
    intro p
    have hplace : place ≠ [] := by
      rintro rfl
      simp [node?_nil] at h
    rw [node?_put t hplace]
    by_cases hp : p = place
    · rw [if_pos hp, hp, h]
      rfl
    · rw [if_neg hp]

namespace SameShape

theorem cases (h : t.SameShape u) (place : List String) :
    (t.node? place = none ∧ u.node? place = none) ∨
      (t.node? place = some .directory ∧ u.node? place = some .directory) ∨
      ∃ a b, t.node? place = some (.file a) ∧ u.node? place = some (.file b) := by
  have hnodes := h.nodes place
  rcases ht : t.node? place with _ | (_ | a) <;> rcases hu : u.node? place with _ | (_ | b) <;>
    simp_all [FileNode.isDirectory]

theorem walk (h : t.SameShape u) (place cs : List String) : t.walk place cs = u.walk place cs := by
  induction cs generalizing place with
  | nil => rfl
  | cons c cs ih =>
    simp only [FileTree.walk]
    rcases h.cases (if c = ".." then place.dropLast else place ++ [c]) with
      ⟨ht, hu⟩ | ⟨ht, hu⟩ | ⟨a, b, ht, hu⟩
    · rw [ht, hu]
    · rw [ht, hu]
      split
      · rfl
      · exact ih _
    · rw [ht, hu]

theorem openDirectory (h : t.SameShape u) (path : String) :
    t.openDirectory path = u.openDirectory path := by
  unfold FileTree.openDirectory
  rw [h.current]
  split
  · rfl
  · split
    · rfl
    · exact h.walk _ _

end SameShape

structure KeepsDirectories (t u : FileTree α) : Prop where
  current : u.current = t.current
  nodes : ∀ place, t.node? place = some .directory → u.node? place = some .directory

theorem keepsDirectories_put {place : List String} (hplace : place ≠ [])
    (h : t.node? place ≠ some .directory) (n : FileNode α) :
    t.KeepsDirectories (t.put place n) where
  current := current_put t place n
  nodes := by
    intro p hp
    rw [node?_put t hplace, if_neg, hp]
    rintro rfl
    exact h hp

namespace KeepsDirectories

theorem walk (h : t.KeepsDirectories u) {place cs directory : List String}
    (hwalk : t.walk place cs = .ok directory) : u.walk place cs = .ok directory := by
  induction cs generalizing place with
  | nil => exact hwalk
  | cons c cs ih =>
    simp only [FileTree.walk] at hwalk ⊢
    split at hwalk
    · cases hwalk
    · next hlong =>
      rw [if_neg hlong]
      split at hwalk
      · cases hwalk
      · next hnode =>
        rw [h.nodes _ hnode]
        exact ih hwalk
      · cases hwalk

theorem openDirectory (h : t.KeepsDirectories u) {directory : List String} {path : String}
    (hopen : t.openDirectory path = .ok directory) : u.openDirectory path = .ok directory := by
  simp only [FileTree.openDirectory, h.current] at hopen ⊢
  split at hopen
  · cases hopen
  · next hnul =>
    split at hopen
    · cases hopen
    · next hlong =>
      rw [if_neg hnul, if_neg hlong]
      exact h.walk hopen

end KeepsDirectories

end

namespace SameShape

variable {t u : Files}

theorem isFileAt (h : t.SameShape u) (path : String) : t.isFileAt path = u.isFileAt path := by
  unfold FileTree.isFileAt FileTree.readTextAt
  dsimp only
  generalize String.ofList (Path.lastPart path.toList) = name
  rw [h.openDirectory]
  by_cases hname : name = "" ∨ name = "." ∨ name = ".."
  · rw [if_pos (by simpa [or_assoc] using hname), if_pos (by simpa [or_assoc] using hname)]
  · rw [if_neg (by simpa [or_assoc] using hname), if_neg (by simpa [or_assoc] using hname)]
    cases u.openDirectory (String.ofList (Path.leadPart path.toList)) with
    | error f => rfl
    | ok directory =>
      simp only [readTextIn, readIn, nodeIn]
      by_cases hnul : Path.hasNul name = true
      · simp only [hnul, if_true]
      · by_cases hlong : Path.isTooLong name = true
        · simp only [hnul, hlong, if_true]
        · simp only [hnul, hlong]
          -- a file counts whether or not it holds text
          rcases h.cases (directory ++ [name]) with ⟨ht, hu⟩ | ⟨ht, hu⟩ | ⟨a, b, ht, hu⟩
          · simp only [ht, hu]
          · simp only [ht, hu]
          · simp only [ht, hu]
            cases a <;> cases b <;> rfl

theorem isDirectoryAt (h : t.SameShape u) (path : String) :
    t.isDirectoryAt path = u.isDirectoryAt path := by
  unfold FileTree.isDirectoryAt
  rw [h.openDirectory]

theorem placeBehind (h : t.SameShape u) :
    Connection.placeBehind t = Connection.placeBehind u := by
  funext place c
  unfold Connection.placeBehind
  rcases h.cases place with ⟨ht, hu⟩ | ⟨ht, hu⟩ | ⟨a, b, ht, hu⟩ <;> rw [ht, hu]

theorem placeOf? (h : t.SameShape u) (path : String) :
    Connection.placeOf? t path = Connection.placeOf? u path := by
  unfold Connection.placeOf?
  rw [h.placeBehind, h.current]

theorem hasRights (h : t.SameShape u) (a : DatabaseAddress) :
    Connection.hasRights t a = Connection.hasRights u a := by
  unfold Connection.hasRights
  simp only [h.isFileAt, h.isDirectoryAt]

theorem locateAt (h : t.SameShape u) (mode : OpenMode) (place : List String) :
    Connection.locateAt t mode place = Connection.locateAt u mode place := by
  unfold Connection.locateAt
  rcases h.cases place.dropLast with ⟨ht, hu⟩ | ⟨ht, hu⟩ | ⟨a, b, ht, hu⟩ <;>
    rcases h.cases place with ⟨ht', hu'⟩ | ⟨ht', hu'⟩ | ⟨a', b', ht', hu'⟩ <;>
    rw [ht, hu, ht', hu']

theorem locate (h : t.SameShape u) (a : DatabaseAddress) (path : String) :
    Connection.locate t a path = Connection.locate u a path := by
  unfold Connection.locate
  rw [h.placeOf?, h.hasRights]
  simp only [h.locateAt]

theorem establish (h : t.SameShape u) (url : String) :
    Connection.establish t url = Connection.establish u url := by
  unfold Connection.establish Connection.ofAddress
  simp only [h.locate]

end SameShape

end FileTree

namespace Connection

variable {t u : Files}

/-- The place behind one more component, as far as the path alone decides. -/
def stepPlace (place : List String) (c : String) : List String :=
  if c = ".." then place.dropLast else place ++ [c]

theorem placeBehind_eq_some {place next : List String} {c : String}
    (h : placeBehind t place c = some next) : next = stepPlace place c := by
  unfold placeBehind at h
  unfold stepPlace
  by_cases hc : c = ".."
  · rw [if_pos hc] at h ⊢
    exact (Option.some.inj h).symm
  · rw [if_neg hc] at h ⊢
    split at h
    · cases h
    · split at h
      · cases h
      · split at h
        · cases h
        · exact (Option.some.inj h).symm
      · exact (Option.some.inj h).symm

theorem foldlM_placeBehind {place last : List String} {cs : List String}
    (h : cs.foldlM (placeBehind t) place = some last) : last = cs.foldl stepPlace place := by
  induction cs generalizing place with
  | nil => exact (Option.some.inj h).symm
  | cons c cs ih =>
    rw [List.foldlM_cons, Option.bind_eq_bind, Option.bind_eq_some_iff] at h
    obtain ⟨next, hnext, hrest⟩ := h
    rw [ih hrest, List.foldl_cons, placeBehind_eq_some hnext]

theorem placeOf?_unique {path : String} {p q : List String} (hcurrent : t.current = u.current)
    (hp : placeOf? t path = some p) (hq : placeOf? u path = some q) : p = q := by
  unfold placeOf? at hp hq
  obtain ⟨hp, -⟩ := Option.filter_eq_some_iff.1 hp
  obtain ⟨hq, -⟩ := Option.filter_eq_some_iff.1 hq
  rw [foldlM_placeBehind hp, foldlM_placeBehind hq, hcurrent]

theorem locateAt_eq_ok {mode : OpenMode} {place : List String} {l : DatabaseLocation}
    (h : locateAt t mode place = .ok l) : l = .file place := by
  unfold locateAt at h
  split at h
  · split at h
    · exact (Except.ok.inj h).symm
    · cases h
  · exact (Except.ok.inj h).symm
  · cases h
  · cases h

theorem locate_eq_ok {a : DatabaseAddress} {path : String} {l : DatabaseLocation}
    (h : locate t a path = .ok l) : ∃ place, placeOf? t path = some place ∧ l = .file place := by
  unfold locate at h
  split at h
  · cases h
  · next place hplace =>
    split at h
    · exact ⟨place, hplace, locateAt_eq_ok h⟩
    · cases h

theorem establish_eq_ok {url : String} {c : Connection} (h : establish t url = .ok c) :
    ∃ a, DatabaseAddress.parse url = .ok a ∧ (a.file? = none ∧ c.location = .memory ∨
      ∃ path place, a.file? = some path ∧ placeOf? t path = some place ∧
        c.location = .file place) := by
  unfold establish ofAddress at h
  cases hparse : DatabaseAddress.parse url with
  | error f => simp [hparse] at h
  | ok a =>
    refine ⟨a, rfl, ?_⟩
    simp only [hparse] at h
    cases hfile : a.file? with
    | none =>
      simp only [hfile] at h
      obtain rfl := Except.ok.inj h
      exact .inl ⟨rfl, rfl⟩
    | some path =>
      simp only [hfile] at h
      cases hlocate : locate t a path with
      | error f => simp [hlocate] at h
      | ok l =>
        simp only [hlocate] at h
        obtain rfl := Except.ok.inj h
        obtain ⟨place, hplace, rfl⟩ := locate_eq_ok hlocate
        exact .inr ⟨path, place, rfl, hplace, rfl⟩

/-- What the files are decides whether a URL leads anywhere, but not where it leads. -/
theorem location_unique {url : String} {c d : Connection} (hcurrent : t.current = u.current)
    (hc : establish t url = .ok c) (hd : establish u url = .ok d) : c.location = d.location := by
  obtain ⟨a, ha, hc⟩ := establish_eq_ok hc
  obtain ⟨b, hb, hd⟩ := establish_eq_ok hd
  obtain rfl : a = b := Except.ok.inj (ha.symm.trans hb)
  rcases hc with ⟨hnone, hc⟩ | ⟨path, p, hsome, hp, hc⟩
  · rcases hd with ⟨-, hd⟩ | ⟨path', q, hsome, hq, hd⟩
    · rw [hc, hd]
    · rw [hnone] at hsome
      cases hsome
  · rcases hd with ⟨hnone, hd⟩ | ⟨path', q, hsome', hq, hd⟩
    · rw [hnone] at hsome
      cases hsome
    · obtain rfl : path = path' := Option.some.inj (hsome.symm.trans hsome')
      rw [hc, hd, placeOf?_unique hcurrent hp hq]

end Connection

namespace FileTree

/-- Opening a database changes nothing, or it makes an empty file in its place. -/
theorem touchDatabase_cases (t : Files) (url : String) :
    t.touchDatabase url = t ∨ ∃ place readOnly,
      Connection.establish t url = .ok ⟨.file place, readOnly⟩ ∧ t.node? place = none ∧
      t.touchDatabase url = t.put place (.file (.text "")) := by
  unfold touchDatabase
  split
  · next place readOnly hconnect =>
    cases hnode : t.node? place with
    | none => exact .inr ⟨place, readOnly, hconnect, hnode, by simp⟩
    | some n => exact .inl (by simp)
  · exact .inl rfl

variable {t : Files} {databaseUrl : Option String} {place : List String}

theorem ne_nil_of_node?_eq_none {α : Type} {t : FileTree α} (h : t.node? place = none) :
    place ≠ [] := by
  rintro rfl
  cases h

end FileTree

end BeanDoc
