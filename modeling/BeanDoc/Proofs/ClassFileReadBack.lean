import BeanDoc.Proofs.DryRun

/-! Class files. The indented JSON of a class reads back as the class, whatever its texts are and
whether or not its methods have a type and a comment. A class that was written to a file is what the
file holds from then on, and writing it once more changes nothing. -/

namespace BeanDoc

namespace Json

open Input

theorem allSpace_newLine (depth : Nat) : AllSpace (newLine depth) := by
  intro c hc
  rcases List.mem_cons.1 hc with rfl | hc
  · rfl
  · rw [List.eq_of_mem_replicate hc]
    rfl

theorem prettyAt_string (depth : Nat) (s : String) :
    prettyAt depth (.string s) = printString s := by
  rw [prettyAt, printScalar] <;> simp

def StartsItem (text : List Char) : Prop :=
  ∃ c cs, text = c :: cs ∧ isSpace c = false ∧ c ≠ ']'

theorem startsItem_string (depth : Nat) (s : String) : StartsItem (prettyAt depth (.string s)) := by
  rw [prettyAt_string]
  exact ⟨'"', s.toList.flatMap escapeChar ++ ['"'], by simp [printString], by decide, by decide⟩

theorem startsItem_object (depth : Nat) (ms : List (String × Value)) :
    StartsItem (prettyAt depth (.object ms)) := by
  cases ms with
  | nil => exact ⟨'{', ['}'], by rw [prettyAt], by decide, by decide⟩
  | cons m ms =>
    rw [prettyAt]
    simp only [List.append_assoc]
    exact ⟨'{', _, rfl, by decide, by decide⟩

namespace Decoder

variable {α : Type} {d : Decoder α} {depth : Nat}

theorem reads_prettyAt_string (depth : Nat) (s : String) :
    Reads string.read (prettyAt depth (.string s)) s := by
  rw [prettyAt_string]
  exact reads_string s

theorem exists_readWord (word rest : List Char) (p : Place) :
    ∃ q, readWord word ⟨word ++ rest, p⟩ = .ok ⟨rest, q⟩ := by
  induction word generalizing p with
  | nil => exact ⟨p, rfl⟩
  | cons c word ih =>
    obtain ⟨q, hq⟩ := ih (p.after c)
    exact ⟨q, by simpa [readWord, skip] using hq⟩

theorem exists_skipSpace_word {space : List Char} {c : Char} (hspace : AllSpace space)
    (hc : isSpace c = false) (word rest : List Char) (p : Place) :
    ∃ p' q, (⟨space ++ c :: (word ++ rest), p⟩ : Input).skipSpace = ⟨c :: (word ++ rest), p'⟩ ∧
      readWord word ⟨word ++ rest, p'.after c⟩ = .ok ⟨rest, q⟩ := by
  obtain ⟨p', hp'⟩ := exists_skipSpace hspace hc (word ++ rest) p
  obtain ⟨q, hq⟩ := exists_readWord word rest (p'.after c)
  exact ⟨p', q, hp', hq⟩

theorem reads_prettyAt_bool (depth : Nat) (b : Bool) :
    Reads bool.read (prettyAt depth (.bool b)) b := by
  intro space rest p hspace _
  cases b with
  | true =>
    obtain ⟨p', q, hp', hq⟩ := exists_skipSpace_word hspace (by decide : isSpace 't' = false)
      ['r', 'u', 'e'] rest p
    exact ⟨q, by simp_all [bool, prettyAt, printScalar, skip, Except.map]⟩
  | false =>
    obtain ⟨p', q, hp', hq⟩ := exists_skipSpace_word hspace (by decide : isSpace 'f' = false)
      ['a', 'l', 's', 'e'] rest p
    exact ⟨q, by simp_all [bool, prettyAt, printScalar, skip, Except.map]⟩

theorem reads_prettyAt_ofText? (depth : Nat) (text? : Option String) :
    Reads (option string).read (prettyAt depth (.ofText? text?)) text? := by
  intro space rest p hspace hrest
  cases text? with
  | none =>
    obtain ⟨p', q, hp', hq⟩ := exists_skipSpace_word hspace (by decide : isSpace 'n' = false)
      ['u', 'l', 'l'] rest p
    exact ⟨q, by simp_all [option, Value.ofText?, prettyAt, printScalar, skip, Except.map]⟩
  | some s =>
    obtain ⟨p', hp'⟩ := exists_skipSpace hspace (by decide : isSpace '"' = false)
      (s.toList.flatMap escapeChar ++ '"' :: rest) p
    -- the string is read behind the white space that the option skipped
    obtain ⟨q, hq⟩ := reads_string s [] rest p' allSpace_nil hrest
    refine ⟨q, ?_⟩
    simp only [printString, List.append_assoc, List.cons_append, List.nil_append] at hq
    simp [option, Value.ofText?, prettyAt_string, printString, hp', hq, Except.map]

theorem exists_nextItem (isFirst : Bool) {space : List Char} (hspace : AllSpace space) {c : Char}
    (hc : isSpace c = false) (hend : c ≠ ']') (rest : List Char) (p : Place) :
    ∃ q, nextItem isFirst ⟨Record.separator isFirst ++ (space ++ c :: rest), p⟩ =
      .ok (true, ⟨c :: rest, q⟩) := by
  cases isFirst with
  | true =>
    obtain ⟨q, hq⟩ := exists_skipSpace hspace hc rest p
    exact ⟨q, by simp [nextItem, Record.separator, hq]⟩
  | false =>
    obtain ⟨p', hp'⟩ := exists_skipSpace allSpace_nil
      (by decide : isSpace ',' = false) (space ++ c :: rest) p
    obtain ⟨q, hq⟩ := exists_skipSpace hspace hc rest (p'.after ',')
    rw [List.nil_append] at hp'
    exact ⟨q, by simp [nextItem, Record.separator, hp', skip, hq, hend]⟩

theorem exists_readItems {toJson : α → Value} {items : List α}
    (hread : ∀ a ∈ items, Reads d.read (prettyAt depth (toJson a)) a)
    (hstart : ∀ a ∈ items, StartsItem (prettyAt depth (toJson a))) {close : List Char}
    (hclose : AllSpace close) (isFirst : Bool) {fuel : Nat} (hfuel : items.length < fuel)
    (rest : List Char) (p : Place) : ∃ q, readItems d.read fuel isFirst
      ⟨(prettyItems depth (items.map toJson)).drop isFirst.toNat ++ (close ++ ']' :: rest), p⟩ =
      .ok (items, ⟨rest, q⟩) := by
  induction items generalizing isFirst fuel p with
  | nil =>
    obtain ⟨fuel, rfl⟩ := Nat.exists_eq_succ_of_ne_zero (Nat.ne_of_gt hfuel)
    obtain ⟨q, hq⟩ := exists_skipSpace hclose (by decide : isSpace ']' = false) rest p
    refine ⟨q.after ']', ?_⟩
    rw [List.map_nil, prettyItems, List.drop_nil, List.nil_append, readItems]
    simp [nextItem, hq, skip, bind, Except.bind, pure, Except.pure]
  | cons a items ih =>
    obtain ⟨fuel, rfl⟩ := Nat.exists_eq_succ_of_ne_zero (by omega : fuel ≠ 0)
    rw [List.forall_mem_cons] at hread hstart
    obtain ⟨c, cs, htext, hc, hend⟩ := hstart.1
    have hrest : EndsNumber (prettyItems depth (items.map toJson) ++ (close ++ ']' :: rest)) := by
      cases items with
      | nil => exact endsNumber_append hclose (by decide) rest
      | cons b items => exact endsNumber_append allSpace_nil (by decide) _
    obtain ⟨p₁, h₁⟩ := exists_nextItem isFirst (allSpace_newLine depth) hc hend
      (cs ++ (prettyItems depth (items.map toJson) ++ (close ++ ']' :: rest))) p
    obtain ⟨p₂, h₂⟩ := hread.1 [] _ p₁ allSpace_nil hrest
    obtain ⟨q, hq⟩ := ih hread.2 hstart.2 false (Nat.lt_of_succ_lt_succ hfuel) p₂
    rw [Bool.toNat_false, List.drop_zero] at hq
    rw [List.nil_append, htext, List.cons_append] at h₂
    refine ⟨q, ?_⟩
    have hitems : (prettyItems depth ((a :: items).map toJson)).drop isFirst.toNat =
        Record.separator isFirst ++
          (newLine depth ++ c :: (cs ++ prettyItems depth (items.map toJson))) := by
      cases isFirst <;> simp [prettyItems, Record.separator, htext]
    rw [hitems, readItems]
    simp only [List.append_assoc, List.cons_append, h₁, h₂, hq, bind, Except.bind]
    rfl

theorem exists_prettyAt_array (depth : Nat) (vs : List Value) :
    ∃ close, AllSpace close ∧ prettyAt depth (.array vs) =
      '[' :: ((prettyItems (depth + 1) vs).drop 1 ++ (close ++ [']'])) := by
  cases vs with
  | nil => exact ⟨[], allSpace_nil, by simp [prettyAt, prettyItems]⟩
  | cons v vs => exact ⟨newLine depth, allSpace_newLine depth, by simp [prettyAt, prettyItems]⟩

theorem length_le_prettyItems (depth : Nat) (vs : List Value) :
    vs.length ≤ (prettyItems depth vs).length := by
  induction vs with
  | nil => exact Nat.zero_le _
  | cons v vs ih =>
    simp only [prettyItems, List.length_append, List.length_cons, List.length_nil]
    omega

theorem reads_prettyAt_list {toJson : α → Value} {items : List α}
    (hread : ∀ a ∈ items, Reads d.read (prettyAt (depth + 1) (toJson a)) a)
    (hstart : ∀ a ∈ items, StartsItem (prettyAt (depth + 1) (toJson a))) :
    Reads (list d).read (prettyAt depth (.array (items.map toJson))) items := by
  intro space rest p hspace _
  obtain ⟨close, hclose, htext⟩ := exists_prettyAt_array depth (items.map toJson)
  have hfuel : items.length < ('[' :: ((prettyItems (depth + 1) (items.map toJson)).drop 1 ++
      (close ++ ']' :: rest))).length + 1 := by
    have hlength := length_le_prettyItems (depth + 1) (items.map toJson)
    rw [List.length_map] at hlength
    simp only [List.length_cons, List.length_append, List.length_drop]
    omega
  obtain ⟨p', hp'⟩ := exists_skipSpace hspace (by decide : isSpace '[' = false)
    ((prettyItems (depth + 1) (items.map toJson)).drop 1 ++ (close ++ ']' :: rest)) p
  obtain ⟨q, hq⟩ := exists_readItems hread hstart hclose true hfuel rest (p'.after '[')
  refine ⟨q, ?_⟩
  simpa only [list, htext, List.cons_append, List.append_assoc, List.nil_append, hp', skip,
    Bool.toNat_true] using hq

namespace Record

theorem prettyMembers_eq (depth : Nat) (ms : List (String × Value)) :
    prettyMembers depth ms = printMembers (prettyAt depth) (newLine depth) [' '] ms := by
  induction ms with
  | nil => rw [prettyMembers, printMembers]
  | cons m ms ih => simp [prettyMembers, printMembers, ih]

theorem exists_prettyAt_object (depth : Nat) (ms : List (String × Value)) :
    ∃ close, AllSpace close ∧ prettyAt depth (.object ms) =
      '{' :: ((prettyMembers (depth + 1) ms).drop 1 ++ (close ++ ['}'])) := by
  cases ms with
  | nil => exact ⟨[], allSpace_nil, by simp [prettyAt, prettyMembers]⟩
  | cons m ms => exact ⟨newLine depth, allSpace_newLine depth, by simp [prettyAt, prettyMembers]⟩

theorem Sets.reads_prettyAt {σ : Type} {r : Record σ} {ms : List (String × Value)} {t : σ}
    (h : Sets r (prettyAt (depth + 1)) [] r.empty ms t) :
    Reads (record r).read (prettyAt depth (.object ms)) t := by
  obtain ⟨close, hclose, htext⟩ := exists_prettyAt_object depth ms
  rw [htext, prettyMembers_eq]
  exact h.reads_braces (allSpace_newLine _) (by simp [AllSpace, isSpace]) hclose

end Record

end Decoder

end Json

open Json Decoder

theorem Parameter.reads_prettyAt (depth : Nat) (p : Parameter) :
    Reads decoder.read (prettyAt depth p.toJson) p := by
  apply Record.Sets.reads_prettyAt
  refine .member rfl rfl (reads_map _ (reads_prettyAt_string _ p.name)) ?_
  refine .member rfl rfl (reads_map _ (reads_prettyAt_string _ p.type)) ?_
  exact .done rfl

theorem Method.reads_prettyAt (depth : Nat) (m : Method) :
    Reads decoder.read (prettyAt depth m.toJson) m := by
  have hparameters : Reads (list Parameter.decoder).read
      (prettyAt (depth + 1) (.array (m.parameters.map Parameter.toJson))) m.parameters :=
    reads_prettyAt_list (fun p _ => p.reads_prettyAt _) (fun p _ => startsItem_object _ _)
  have hannotations : Reads (list string).read
      (prettyAt (depth + 1) (.array (m.annotations.map .string))) m.annotations :=
    reads_prettyAt_list (fun s _ => reads_prettyAt_string _ s) (fun s _ => startsItem_string _ s)
  apply Record.Sets.reads_prettyAt
  refine .member rfl rfl (reads_map _ (reads_prettyAt_string _ m.name)) ?_
  refine .member rfl rfl (reads_map _ hparameters) ?_
  refine .member rfl rfl (reads_map _ (reads_prettyAt_ofText? _ m.returnType)) ?_
  refine .member rfl rfl (reads_map _ hannotations) ?_
  refine .member rfl rfl (reads_map _ (reads_prettyAt_ofText? _ m.comment)) ?_
  exact .done rfl

theorem ClassModel.reads_prettyAt (depth : Nat) (c : ClassModel) :
    Reads decoder.read (prettyAt depth c.toJson) c := by
  have hmethods : Reads (list Method.decoder).read
      (prettyAt (depth + 1) (.array (c.methods.map Method.toJson))) c.methods :=
    reads_prettyAt_list (fun m _ => m.reads_prettyAt _) (fun m _ => startsItem_object _ _)
  apply Record.Sets.reads_prettyAt
  refine .member rfl rfl (reads_map _ (reads_prettyAt_string _ c.name)) ?_
  refine .member rfl rfl (reads_map _ (reads_prettyAt_string _ c.qualifiedName)) ?_
  refine .member rfl rfl (reads_map _ (reads_prettyAt_bool _ c.isInterface)) ?_
  refine .member rfl rfl (reads_map _ hmethods) ?_
  exact .done rfl

theorem ClassModel.parse_print (c : ClassModel) : ClassModel.parse c.print = .ok c :=
  parse_ofList (c.reads_prettyAt 0)

namespace FileTree

variable {α : Type} {t u : FileTree α}

theorem writeIn_eq_ok_iff {directory : List String} {name : String} {content : α} :
    t.writeIn directory name content = .ok u ↔
      Path.hasNul name = false ∧ Path.isTooLong name = false ∧
        t.node? (directory ++ [name]) ≠ some .directory ∧
        u = t.put (directory ++ [name]) (.file content) := by
  unfold writeIn nodeIn
  cases Path.hasNul name with
  | true => simp
  | false =>
    cases Path.isTooLong name with
    | true => simp
    | false => rcases t.node? (directory ++ [name]) with _ | (_ | old) <;> simp [eq_comm (a := u)]

end FileTree

namespace ClassModel

variable {t u : Files} {path : String} {c : ClassModel}

theorem write_eq_ok_iff : c.write t path = .ok u ↔ ∃ directory name,
    locate t path = .ok (directory, name) ∧ t.writeIn directory name (.text c.print) = .ok u := by
  unfold write
  rcases hlocate : locate t path with f | ⟨directory, name⟩
  · simp
  · cases hwrite : t.writeIn directory name (.text c.print) <;> simp [hwrite]

/-- The path leads to a place for a file: in a directory that is there, under a name that a file
can have, where there is a file already or nothing. -/
def TakesFile (t : Files) (path : String) : Prop :=
  ∃ directory name, locate t path = .ok (directory, name) ∧ Path.hasNul name = false ∧
    Path.isTooLong name = false ∧ t.node? (directory ++ [name]) ≠ some .directory

theorem exists_write_iff : (∃ u, c.write t path = .ok u) ↔ TakesFile t path := by
  simp only [write_eq_ok_iff, FileTree.writeIn_eq_ok_iff]
  constructor
  · rintro ⟨u, directory, name, hlocate, hnul, hlong, hnode, -⟩
    exact ⟨directory, name, hlocate, hnul, hlong, hnode⟩
  · rintro ⟨directory, name, hlocate, hnul, hlong, hnode⟩
    exact ⟨_, directory, name, hlocate, hnul, hlong, hnode, rfl⟩

theorem readText_of_locate {directory : List String} {name : String}
    (h : locate t path = .ok (directory, name)) :
    t.readText path = t.readTextIn directory name := by
  unfold locate at h
  split at h
  · cases h
  · next hname =>
    split at h
    · cases h
    · next hopen =>
      obtain ⟨rfl, rfl⟩ := Prod.mk.inj (Except.ok.inj h)
      rw [FileTree.readText, hname]
      dsimp only
      rw [hopen]

/-- A class is written wherever the path has a place for a file. The file then holds its JSON, it is
read as the same class, and writing what was read leaves the file as it is. -/
theorem written_class_reads_back (t : Files) (path : String) (c : ClassModel) :
    ((∃ u, c.write t path = .ok u) ↔ TakesFile t path) ∧
      ∀ u, c.write t path = .ok u → u.readText path = .ok c.print ∧
        ∃ d, read u path = .ok d ∧ d = c ∧ d.write u path = .ok u := by
  refine ⟨exists_write_iff, fun u h => ?_⟩
  obtain ⟨directory, name, hlocate, hwrite⟩ := write_eq_ok_iff.1 h
  obtain ⟨hnul, hlong, hnode, rfl⟩ := FileTree.writeIn_eq_ok_iff.1 hwrite
  have hplace : directory ++ [name] ≠ [] := by simp
  have hput : (t.put (directory ++ [name]) (.file (.text c.print))).node? (directory ++ [name]) =
      some (.file (.text c.print)) := by
    rw [FileTree.node?_put t hplace, if_pos rfl]
  -- the path of the file leads where it led before the file was there
  have hlocate' := locate_of_keepsDirectories
    (FileTree.keepsDirectories_put hplace hnode (.file (.text c.print))) hlocate
  have hread := FileTree.readTextIn_eq_ok_iff.2 ⟨hnul, hlong, hput⟩
  refine ⟨(readText_of_locate hlocate').trans hread, c, ?_, rfl, ?_⟩
  · simp only [read, hlocate', hread, parse_print]
  · refine write_eq_ok_iff.2 ⟨directory, name, hlocate', FileTree.writeIn_eq_ok_iff.2 ?_⟩
    refine ⟨hnul, hlong, ?_, (FileTree.put_put t _ _ _).symm⟩
    rw [hput]
    simp

def oddClass : ClassModel where
  name := "\"Bean\\\x00"
  qualifiedName := "\t\r\n\x7f\u2028😀é"
  methods := [
    { name := "", parameters := [⟨"größe", "List<\"?\">"⟩, ⟨"", ""⟩], returnType := some "" },
    { name := "get\x1f", annotations := ["", "\\u0041"], comment := some "/** \x08\x0c */" }]

theorem written_oddClass_reads_back :
    let t : Files := .ofFiles ["project"] []
    ∃ u, oddClass.write t "Bean.json" = .ok u ∧ u.readText "Bean.json" = .ok oddClass.print ∧
      ∃ d, read u "Bean.json" = .ok d ∧ d = oddClass ∧ d.write u "Bean.json" = .ok u := by
  intro t
  have hnone : t.node? ["project", "Bean.json"] = none := by rfl
  have htakes : TakesFile t "Bean.json" :=
    ⟨["project"], "Bean.json", by rfl, by decide, by decide, by simp [hnone]⟩
  obtain ⟨u, hu⟩ := (written_class_reads_back t "Bean.json" oddClass).1.2 htakes
  exact ⟨u, hu, (written_class_reads_back t "Bean.json" oddClass).2 u hu⟩

end ClassModel

end BeanDoc
