import BeanDoc.Generation.Edit

/-! A class takes edits method by method. Whether an edit is taken depends on the name of the
method and on the text alone, so no edit changes the fate of another. -/

namespace BeanDoc

def Method.Takes (m : Method) (e : Edit) : Prop :=
  m.name = e.methodName ∧ (DocComment.parse e.comment).isOk

instance (m : Method) (e : Edit) : Decidable (m.Takes e) :=
  inferInstanceAs (Decidable (_ ∧ _))

def Method.documentedBy (m : Method) (e : Edit) : Method :=
  { m with comment := some (DocComment.layout e.comment) }

def Method.takeEdit (i : Nat) (m : Method) (e : Edit) : Method :=
  if e.method = i ∧ m.Takes e then m.documentedBy e else m

def Method.takeEdits (i : Nat) (m : Method) (es : List Edit) : Method :=
  es.foldl (Method.takeEdit i) m

namespace Method

@[simp]
theorem documentedBy_takes (m : Method) (e f : Edit) : (m.documentedBy e).Takes f ↔ m.Takes f :=
  Iff.rfl

@[simp]
theorem takeEdit_takes (i : Nat) (m : Method) (e f : Edit) :
    (m.takeEdit i e).Takes f ↔ m.Takes f := by
  unfold takeEdit
  split
  · exact documentedBy_takes m e f
  · exact Iff.rfl

theorem takeEdit_eq_withComment (i : Nat) (m : Method) (e : Edit) :
    m.takeEdit i e = { m with comment := (m.takeEdit i e).comment } := by
  unfold takeEdit
  split <;> rfl

theorem takeEdits_eq_withComment (i : Nat) (m : Method) (es : List Edit) :
    m.takeEdits i es = { m with comment := (m.takeEdits i es).comment } := by
  induction es generalizing m with
  | nil => rfl
  | cons e es ih =>
    have hstep := ih (m.takeEdit i e)
    rw [takeEdit_eq_withComment i m e] at hstep
    rw [takeEdits, List.foldl_cons, takeEdit_eq_withComment i m e]
    exact hstep

theorem takeEdits_eq_self {i : Nat} {m : Method} {es : List Edit}
    (h : ∀ e ∈ es, e.method = i → ¬ m.Takes e) : m.takeEdits i es = m := by
  induction es with
  | nil => rfl
  | cons e es ih =>
    have he : m.takeEdit i e = m :=
      if_neg fun ⟨hi, ht⟩ => h e List.mem_cons_self hi ht
    rw [takeEdits, List.foldl_cons, he]
    exact ih fun f hf => h f (List.mem_cons_of_mem e hf)

theorem takeEdits_eq_of_same_text {i : Nat} {m : Method} {es : List Edit} {text : String}
    (hsame : ∀ e ∈ es, e.method = i → m.Takes e → e.comment = text)
    (hsome : ∃ e ∈ es, e.method = i ∧ m.Takes e) :
    m.takeEdits i es = { m with comment := some (DocComment.layout text) } := by
  induction es generalizing m with
  | nil => simp at hsome
  | cons e es ih =>
    have hsame' : ∀ f ∈ es, f.method = i → (m.takeEdit i e).Takes f → f.comment = text :=
      fun f hf hi ht => hsame f (List.mem_cons_of_mem e hf) hi ((takeEdit_takes i m e f).1 ht)
    rw [takeEdits, List.foldl_cons]
    by_cases hrest : ∃ f ∈ es, f.method = i ∧ m.Takes f
    · obtain ⟨f, hf, hi, ht⟩ := hrest
      have hdone := ih hsame' ⟨f, hf, hi, (takeEdit_takes i m e f).2 ht⟩
      rw [takeEdit_eq_withComment i m e] at hdone ⊢
      exact hdone
    · -- the edit in front is the only one that is taken
      have hnone : ∀ f ∈ es, f.method = i → ¬ (m.takeEdit i e).Takes f :=
        fun f hf hi ht => hrest ⟨f, hf, hi, (takeEdit_takes i m e f).1 ht⟩
      obtain ⟨f, hf, hi, ht⟩ := hsome
      rcases List.mem_cons.1 hf with rfl | hf
      · have hlast : m.takeEdit i f = m.documentedBy f := if_pos ⟨hi, ht⟩
        have htext := hsame f List.mem_cons_self hi ht
        exact (takeEdits_eq_self hnone).trans (by rw [hlast, documentedBy, htext])
      · exact absurd ⟨f, hf, hi, ht⟩ hrest

end Method

namespace ClassModel

variable {c d : ClassModel} {e : Edit}

theorem applyEdit_cases (c : ClassModel) (e : Edit) :
    (∃ f, c.applyEdit e = (.error f, c) ∧ ∀ m, c.methods[e.method]? = some m → ¬ m.Takes e) ∨
      ∃ m, c.methods[e.method]? = some m ∧ m.Takes e ∧ c.applyEdit e = (.ok (), { c with
        methods := c.methods.modify e.method ({ · with comment := some e.comment }) }) := by
  unfold applyEdit
  cases hm : c.methods[e.method]? with
  | none => exact .inl ⟨_, rfl, by simp⟩
  | some m =>
    by_cases hname : m.name = e.methodName
    · cases hparse : DocComment.parse e.comment with
      | error f =>
        refine .inl ⟨.malformedComment m.name f, by simp [hname], ?_⟩
        simp [Method.Takes, hparse, Except.isOk, Except.toBool]
      | ok doc =>
        have htakes : m.Takes e := ⟨hname, by rw [hparse]; rfl⟩
        exact .inr ⟨m, rfl, htakes, by simp [hname, modifyMethod]⟩
    · refine .inl ⟨.staleEdit e.method e.methodName m.name, by simp [hname], ?_⟩
      simp [Method.Takes, hname]

theorem applyEdit_eq_ok_iff :
    c.applyEdit e = (.ok (), d) ↔ ∃ m, c.methods[e.method]? = some m ∧ m.Takes e ∧
      d = { c with
        methods := c.methods.modify e.method ({ · with comment := some e.comment }) } := by
  rcases c.applyEdit_cases e with ⟨f, herror, hnot⟩ | ⟨m, hm, htakes, hok⟩
  · rw [herror]
    refine ⟨by simp, ?_⟩
    rintro ⟨m, hm, htakes, -⟩
    exact absurd htakes (hnot m hm)
  · rw [hok]
    refine ⟨fun h => ⟨m, hm, htakes, (Prod.mk.inj h).2.symm⟩, ?_⟩
    rintro ⟨-, -, -, rfl⟩
    rfl

theorem reformat_of_applyEdit (h : c.applyEdit e = (.ok (), d)) :
    d.reformat e.method =
      (.ok (), { c with methods := c.methods.modify e.method (·.documentedBy e) }) := by
  obtain ⟨m, hm, -, rfl⟩ := applyEdit_eq_ok_iff.1 h
  simp [reformat, modifyMethod, hm, List.modify_modify_eq, Function.comp_def, Method.documentedBy]

/-- The two calls for an edit fail together: nothing of it stays in the class. -/
theorem takeEdit_cases (c : ClassModel) (e : Edit) :
    (∃ f, c.takeEdit e = (.error f, c) ∧ ∀ m, c.methods[e.method]? = some m → ¬ m.Takes e) ∨
      ∃ m, c.methods[e.method]? = some m ∧ m.Takes e ∧ c.takeEdit e =
        (.ok (), { c with methods := c.methods.modify e.method (·.documentedBy e) }) := by
  unfold takeEdit
  rcases c.applyEdit_cases e with ⟨f, herror, hnot⟩ | ⟨m, hm, htakes, hok⟩
  · exact .inl ⟨f, by rw [herror], hnot⟩
  · have hreformat := reformat_of_applyEdit hok
    exact .inr ⟨m, hm, htakes, by rw [hok]; exact hreformat⟩

def afterEdit (c : ClassModel) (e : Edit) : ClassModel :=
  (c.takeEdit e).2

def editFault? (c : ClassModel) (e : Edit) : Option EditFault :=
  match (c.takeEdit e).1 with
  | .ok () => none
  | .error f => some f

theorem afterEdit_eq (c : ClassModel) (e : Edit) :
    c.afterEdit e = { c with methods := c.methods.mapIdx fun i m => m.takeEdit i e } := by
  unfold afterEdit
  rcases c.takeEdit_cases e with ⟨f, herror, hnot⟩ | ⟨m, hm, htakes, hok⟩
  · have hkept : c.methods.mapIdx (fun i m => m.takeEdit i e) = c.methods := by
      refine List.ext_getElem? fun i => ?_
      rw [List.getElem?_mapIdx]
      cases hm : c.methods[i]? with
      | none => rfl
      | some m =>
        have hout : ¬ (e.method = i ∧ m.Takes e) := by
          rintro ⟨rfl, htakes⟩
          exact hnot m hm htakes
        simp [Method.takeEdit, hout]
    rw [herror, hkept]
  · rw [hok]
    simp only [ClassModel.mk.injEq, true_and]
    refine List.ext_getElem? fun i => ?_
    rw [List.getElem?_modify, List.getElem?_mapIdx]
    by_cases hi : e.method = i
    · subst hi
      simp [hm, Method.takeEdit, htakes]
    · simp [Method.takeEdit, hi]

theorem editFault?_congr
    (h : (d.methods[e.method]?).map (·.name) = (c.methods[e.method]?).map (·.name)) :
    d.editFault? e = c.editFault? e := by
  unfold editFault? takeEdit applyEdit
  cases hc : c.methods[e.method]? with
  | none =>
    have hd : d.methods[e.method]? = none := by simpa [hc] using h
    simp [hd]
  | some m =>
    obtain ⟨n, hd, hname⟩ : ∃ n, d.methods[e.method]? = some n ∧ n.name = m.name := by
      simpa [hc] using h
    by_cases hn : m.name = e.methodName
    · cases hp : DocComment.parse e.comment with
      | error f => simp [hd, hname, hn]
      | ok doc => simp [hd, hname, hn, hc, reformat, modifyMethod]
    · simp [hd, hname, hn]

theorem editFault?_afterEdit (c : ClassModel) (e f : Edit) :
    (c.afterEdit e).editFault? f = c.editFault? f := by
  apply editFault?_congr
  rw [afterEdit_eq, List.getElem?_mapIdx, Option.map_map]
  congr 1
  funext m
  rw [Function.comp_apply, Method.takeEdit_eq_withComment]

theorem takeEdits_cons (c : ClassModel) (e : Edit) (es : List Edit) :
    c.takeEdits (e :: es) = (((c.afterEdit e).takeEdits es).1,
      ((c.editFault? e).map (Rejection.mk e)).toList ++ ((c.afterEdit e).takeEdits es).2) := by
  rw [takeEdits, afterEdit, editFault?]
  obtain ⟨answer, d⟩ := c.takeEdit e
  cases answer <;> rfl

theorem takeEdits_fst (c : ClassModel) (es : List Edit) :
    (c.takeEdits es).1 = es.foldl afterEdit c := by
  induction es generalizing c with
  | nil => rfl
  | cons e es ih => rw [takeEdits_cons, ih, List.foldl_cons]

/-- Each method takes the edits that are addressed to it, and nothing else changes. -/
theorem takeEdits_class (c : ClassModel) (es : List Edit) :
    (c.takeEdits es).1 = { c with methods := c.methods.mapIdx fun i m => m.takeEdits i es } := by
  induction es generalizing c with
  | nil => simp [takeEdits, Method.takeEdits, List.mapIdx_eq_zipIdx_map]
  | cons e es ih =>
    rw [takeEdits_cons, ih, afterEdit_eq]
    simp only [List.mapIdx_mapIdx, Function.comp_def, Method.takeEdits, List.foldl_cons]

/-- An edit is rejected for what it would be rejected for if it came alone. -/
theorem takeEdits_rejections (c : ClassModel) (es : List Edit) :
    (c.takeEdits es).2 = es.filterMap fun e => (c.editFault? e).map (Rejection.mk e) := by
  induction es generalizing c with
  | nil => rfl
  | cons e es ih =>
    rw [takeEdits_cons, ih]
    simp only [editFault?_afterEdit]
    cases hf : c.editFault? e <;> simp [hf]

theorem exists_method_after {c : ClassModel} {i : Nat} {m : Method} (hm : c.methods[i]? = some m)
    (es : List Edit) : ∃ n, (c.takeEdits es).1.methods[i]? = some n ∧ n.name = m.name := by
  refine ⟨m.takeEdits i es, ?_, ?_⟩
  · rw [takeEdits_class, List.getElem?_mapIdx, hm, Option.map_some]
  · rw [Method.takeEdits_eq_withComment]

/-- The text alone decides on the edit: it is a documentation comment, and is put in its place and
laid out, or the edit is rejected for what is wrong with it. -/
def GoesByText (c : ClassModel) (e : Edit) : Prop :=
  (∃ doc d d', DocComment.parse e.comment = .ok doc ∧ c.applyEdit e = (.ok (), d) ∧
      d.reformat e.method = (.ok (), d')) ∨
    ∃ f, DocComment.parse e.comment = .error f ∧
      c.applyEdit e = (.error (.malformedComment e.methodName f), c)

theorem goesByText_of_name_eq {m : Method}
    (hm : c.methods[e.method]? = some m) (hname : m.name = e.methodName) : c.GoesByText e := by
  cases hparse : DocComment.parse e.comment with
  | ok doc =>
    have htakes : m.Takes e := ⟨hname, by rw [hparse]; rfl⟩
    have happly := applyEdit_eq_ok_iff.2 ⟨m, hm, htakes, rfl⟩
    exact .inl ⟨doc, _, _, hparse, happly, reformat_of_applyEdit happly⟩
  | error f =>
    refine .inr ⟨f, hparse, ?_⟩
    simp [applyEdit, hm, hname, hparse]

theorem GoesByText.editFault?_eq (h : c.GoesByText e) :
    (∃ doc, DocComment.parse e.comment = .ok doc ∧ c.editFault? e = none) ∨
      ∃ f, DocComment.parse e.comment = .error f ∧
        c.editFault? e = some (.malformedComment e.methodName f) := by
  rcases h with ⟨doc, d, d', hparse, happly, hreformat⟩ | ⟨f, hparse, happly⟩
  · exact .inl ⟨doc, hparse, by simp only [editFault?, takeEdit, happly, hreformat]⟩
  · exact .inr ⟨f, hparse, by simp only [editFault?, takeEdit, happly]⟩

end ClassModel

end BeanDoc
