import BeanDoc.Proofs.EditedClass

/-! Calls that change a class. A call fails and leaves the class as it is, or it changes the comment
of its target and nothing else. So all that is not a comment stays the same over any number of
calls. -/

namespace BeanDoc

inductive DocumentCall where
  | applyEdit (e : Edit)
  | reformat (method : Nat)
  deriving DecidableEq, Repr

def Method.signature (m : Method) : Method :=
  { m with comment := none }

namespace ClassModel

def perform (c : ClassModel) : DocumentCall → Except EditFault Unit × ClassModel
  | .applyEdit e => c.applyEdit e
  | .reformat i => c.reformat i

def afterCall (c : ClassModel) (call : DocumentCall) : ClassModel :=
  (c.perform call).2

def afterCalls (c : ClassModel) (calls : List DocumentCall) : ClassModel :=
  calls.foldl afterCall c

structure SameShape (c d : ClassModel) : Prop where
  name : d.name = c.name
  qualifiedName : d.qualifiedName = c.qualifiedName
  isInterface : d.isInterface = c.isInterface
  signatures : d.methods.map Method.signature = c.methods.map Method.signature

structure Recommented (c : ClassModel) (i : Nat) (comment : Option String) (d : ClassModel) :
    Prop where
  shape : c.SameShape d
  target : (d.methods[i]?).map (·.comment) = some comment
  others : ∀ j ≠ i, d.methods[j]? = c.methods[j]?

/-- What comes of a call, with one rule for each way in which it can end: its answer, and the class
behind it. -/
inductive Performs (c : ClassModel) : DocumentCall → Except EditFault Unit × ClassModel → Prop
  | unknown {e : Edit} (hout : c.methods.length ≤ e.method) :
      Performs c (.applyEdit e) (.error (.unknownMethod e.method), c)
  | stale {e : Edit} {m : Method} (hm : c.methods[e.method]? = some m)
      (hname : m.name ≠ e.methodName) :
      Performs c (.applyEdit e) (.error (.staleEdit e.method e.methodName m.name), c)
  | malformed {e : Edit} {m : Method} {f : DocComment.Fault} (hm : c.methods[e.method]? = some m)
      (hname : m.name = e.methodName) (hparse : DocComment.parse e.comment = .error f) :
      Performs c (.applyEdit e) (.error (.malformedComment m.name f), c)
  | applied {e : Edit} {m : Method} {doc : DocComment} {d : ClassModel}
      (hm : c.methods[e.method]? = some m) (hname : m.name = e.methodName)
      (hparse : DocComment.parse e.comment = .ok doc)
      (hd : c.Recommented e.method (some e.comment) d) : Performs c (.applyEdit e) (.ok (), d)
  | missing {i : Nat} (hout : c.methods.length ≤ i) :
      Performs c (.reformat i) (.error (.unknownMethod i), c)
  | reformatted {i : Nat} {m : Method} {d : ClassModel} (hm : c.methods[i]? = some m)
      (hd : c.Recommented i (m.comment.map DocComment.layout) d) :
      Performs c (.reformat i) (.ok (), d)

variable {c d d' : ClassModel} {i : Nat} {comment : Option String}

theorem SameShape.refl (c : ClassModel) : c.SameShape c := ⟨rfl, rfl, rfl, rfl⟩

theorem SameShape.trans (h : c.SameShape d) (h' : d.SameShape d') : c.SameShape d' :=
  ⟨h'.name.trans h.name, h'.qualifiedName.trans h.qualifiedName,
    h'.isInterface.trans h.isInterface, h'.signatures.trans h.signatures⟩

theorem method_eq_of_signature {m n : Method} (hsignature : m.signature = n.signature)
    (hcomment : m.comment = n.comment) : m = n := by
  cases m
  cases n
  simp_all [Method.signature]

theorem Recommented.unique (h : c.Recommented i comment d) (h' : c.Recommented i comment d') :
    d = d' := by
  have hsignatures := h.shape.signatures.trans h'.shape.signatures.symm
  have hmethods : d.methods = d'.methods := by
    refine List.ext_getElem? fun j => ?_
    by_cases hj : j = i
    · -- the target is settled by its signature, which is kept, and its comment, which is given
      subst hj
      obtain ⟨m, hm, rfl⟩ := Option.map_eq_some_iff.1 h.target
      obtain ⟨n, hn, hcomment⟩ := Option.map_eq_some_iff.1 h'.target
      have hat := congrArg (·[j]?) hsignatures
      simp only [List.getElem?_map, hm, hn, Option.map_some, Option.some.injEq] at hat
      rw [hm, hn, method_eq_of_signature hat hcomment.symm]
    · rw [h.others j hj, h'.others j hj]
  exact (ClassModel.mk.injEq ..).mpr ⟨h.shape.name.trans h'.shape.name.symm,
    h.shape.qualifiedName.trans h'.shape.qualifiedName.symm,
    h.shape.isInterface.trans h'.shape.isInterface.symm, hmethods⟩

theorem recommented_modifyMethod {m : Method} (hm : c.methods[i]? = some m)
    (f : Option String → Option String) :
    c.Recommented i (f m.comment) (c.modifyMethod i fun m => { m with comment := f m.comment }) := by
  refine ⟨⟨rfl, rfl, rfl, ?_⟩, ?_, ?_⟩
  · refine List.ext_getElem? fun j => ?_
    by_cases hj : i = j
    · subst hj
      simp [modifyMethod, hm, Method.signature]
    · simp [modifyMethod, hj]
  · simp [modifyMethod, hm]
  · intro j hj
    simp [modifyMethod, Ne.symm hj]

theorem exists_performs (c : ClassModel) (call : DocumentCall) : ∃ r, c.Performs call r := by
  cases call with
  | applyEdit e =>
    cases hm : c.methods[e.method]? with
    | none => exact ⟨_, .unknown (List.getElem?_eq_none_iff.1 hm)⟩
    | some m =>
      by_cases hname : m.name = e.methodName
      · cases hparse : DocComment.parse e.comment with
        | error f => exact ⟨_, .malformed hm hname hparse⟩
        | ok doc =>
          have hd := recommented_modifyMethod hm fun _ => some e.comment
          exact ⟨_, .applied hm hname hparse hd⟩
      · exact ⟨_, .stale hm hname⟩
  | reformat i =>
    cases hm : c.methods[i]? with
    | none => exact ⟨_, .missing (List.getElem?_eq_none_iff.1 hm)⟩
    | some m =>
      have hd := recommented_modifyMethod hm (Option.map DocComment.layout)
      exact ⟨_, .reformatted hm hd⟩

section
variable {call : DocumentCall} {r : Except EditFault Unit × ClassModel}

theorem perform_eq_of_performs (h : c.Performs call r) : c.perform call = r := by
  cases h with
  | unknown hout => simp [perform, applyEdit, List.getElem?_eq_none_iff.2 hout]
  | stale hm hname => simp [perform, applyEdit, hm, hname]
  | malformed hm hname hparse => simp [perform, applyEdit, hm, hname, hparse]
  | @applied e m doc d hm hname hparse hd =>
    obtain rfl := (recommented_modifyMethod hm fun _ => some e.comment).unique hd
    simp [perform, applyEdit, hm, hname, hparse]
  | missing hout => simp [perform, reformat, List.getElem?_eq_none_iff.2 hout]
  | @reformatted i m d hm hd =>
    obtain rfl := (recommented_modifyMethod hm (Option.map DocComment.layout)).unique hd
    simp [perform, reformat, hm]

theorem performs_iff : c.Performs call r ↔ c.perform call = r := by
  refine ⟨perform_eq_of_performs, ?_⟩
  rintro rfl
  obtain ⟨r, hr⟩ := exists_performs c call
  rwa [perform_eq_of_performs hr]

theorem Performs.sameShape (h : c.Performs call r) : c.SameShape r.2 := by
  cases h with
  | unknown | stale | malformed | missing => exact .refl c
  | applied _ _ _ hd => exact hd.shape
  | reformatted _ hd => exact hd.shape

theorem Performs.eq_of_error {f : EditFault} (h : c.Performs call (.error f, d)) : d = c := by
  cases h with
  | unknown | stale | malformed | missing => rfl

theorem afterCall_of_error {f : EditFault} (h : (c.perform call).1 = .error f) :
    c.afterCall call = c := by
  have hperforms : c.Performs call (.error f, c.afterCall call) :=
    performs_iff.2 (Prod.ext h rfl)
  exact hperforms.eq_of_error

end

theorem sameShape_afterCall (c : ClassModel) (call : DocumentCall) :
    c.SameShape (c.afterCall call) :=
  (performs_iff.2 rfl).sameShape

theorem sameShape_afterCalls (c : ClassModel) (calls : List DocumentCall) :
    c.SameShape (c.afterCalls calls) := by
  induction calls generalizing c with
  | nil => exact .refl c
  | cons call calls ih => exact (sameShape_afterCall c call).trans (ih (c.afterCall call))

theorem afterCalls_concat (c : ClassModel) (calls : List DocumentCall) (call : DocumentCall) :
    c.afterCalls (calls ++ [call]) = (c.afterCalls calls).afterCall call :=
  List.foldl_append

theorem applyEdit_fst_eq_ok_iff {e : Edit} :
    (c.applyEdit e).1 = .ok () ↔ ∃ m doc, c.methods[e.method]? = some m ∧
      m.name = e.methodName ∧ DocComment.parse e.comment = .ok doc := by
  constructor
  · intro hok
    have hperforms : c.Performs (.applyEdit e) (.ok (), (c.applyEdit e).2) :=
      performs_iff.2 (Prod.ext hok rfl)
    cases hperforms with
    | applied hm hname hparse _ => exact ⟨_, _, hm, hname, hparse⟩
  · rintro ⟨m, doc, hm, hname, hparse⟩
    have hd := recommented_modifyMethod hm fun _ => some e.comment
    exact congrArg Prod.fst (perform_eq_of_performs (.applied hm hname hparse hd))

/-- After any calls the class has the shape that it had at first. The next call ends by the rules,
in its answer and in the class that it leaves; if it fails, that is the class before it. An edit
succeeds if its method is there under its name and its text is a documentation comment, whatever its
mode is. -/
theorem calls_confined (c : ClassModel) (calls : List DocumentCall) (call : DocumentCall) :
    let d := c.afterCalls calls
    c.SameShape d ∧ (∀ r, d.perform call = r ↔ d.Performs call r) ∧
      c.afterCalls (calls ++ [call]) = (d.perform call).2 ∧
      (∀ f, (d.perform call).1 = .error f → c.afterCalls (calls ++ [call]) = d) ∧
      ∀ e, (∀ mode, d.applyEdit { e with mode := mode } = d.applyEdit e) ∧
        ((d.applyEdit e).1 = .ok () ↔ ∃ m doc, d.methods[e.method]? = some m ∧
          m.name = e.methodName ∧ DocComment.parse e.comment = .ok doc) := by
  intro d
  have hnext : c.afterCalls (calls ++ [call]) = d.afterCall call := afterCalls_concat c calls call
  refine ⟨sameShape_afterCalls c calls, fun r => performs_iff.symm, hnext, ?_, ?_⟩
  · intro f herror
    rw [hnext, afterCall_of_error herror]
  · exact fun e => ⟨fun mode => rfl, applyEdit_fst_eq_ok_iff⟩

end ClassModel

end BeanDoc
