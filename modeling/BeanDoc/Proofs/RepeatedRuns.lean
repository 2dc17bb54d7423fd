import BeanDoc.Proofs.CandidatePlaces
import BeanDoc.Proofs.RunComments

/-! Runs after runs. A selector that goes by names does not look at comments, and neither does
anything else that decides on the comment of a method; so a run documents each method on its own.
A second run changes nothing, and getters and setters can be documented one after the other. -/

namespace BeanDoc

def ClassModel.commentFor (c : ClassModel) (templates : Templates) (projectName : String)
    (m : Method) : Option String := do
  let k ← TemplateKind.forKind m.kind
  let text ← (Template.render (templates.get k) (.forMethod c m projectName)).toOption
  if (DocComment.parse text).isOk then some (DocComment.layout text) else none

def Method.redocumented (c : ClassModel) (templates : Templates) (projectName : String)
    (overwrite : Bool) (m : Method) : Method :=
  if m.comment = none ∨ overwrite = true then
    { m with comment := (c.commentFor templates projectName m).or m.comment }
  else m

section
variable {c : ClassModel} {templates : Templates} {projectName : String} {overwrite : Bool}
  {m : Method}

theorem TemplateKind.forKind_eq_some_iff {kind : Accessor.Kind} {k : TemplateKind} :
    forKind kind = some k ↔ kind = k.accessorKind := by
  cases kind <;> cases k <;> simp [forKind, accessorKind]

theorem commentFor_eq_some_iff {comment : String} :
    c.commentFor templates projectName m = some comment ↔ ∃ k text,
      m.kind = TemplateKind.accessorKind k ∧
      Template.render (templates.get k) (.forMethod c m projectName) = .ok text ∧
      (∃ doc, DocComment.parse text = .ok doc) ∧ comment = DocComment.layout text := by
  simp only [ClassModel.commentFor, Option.bind_eq_bind, Option.bind_eq_some_iff,
    TemplateKind.forKind_eq_some_iff, toOption_eq_some_iff, isOk_iff_exists,
    Option.ite_none_right_eq_some, Option.some.injEq]
  constructor
  · rintro ⟨k, hk, text, hr, hdoc, rfl⟩
    exact ⟨k, text, hk, hr, hdoc, rfl⟩
  · rintro ⟨k, text, hk, hr, hdoc, rfl⟩
    exact ⟨k, hk, text, hr, hdoc, rfl⟩

theorem redocumented_kind : (m.redocumented c templates projectName overwrite).kind = m.kind := by
  unfold Method.redocumented
  split <;> rfl

theorem redocumented_name : (m.redocumented c templates projectName overwrite).name = m.name := by
  unfold Method.redocumented
  split <;> rfl

/-- The stored comment comes from the rendered text, which the stored one has no part in. -/
theorem redocumented_redocumented :
    (m.redocumented c templates projectName overwrite).redocumented c templates projectName
      overwrite = m.redocumented c templates projectName overwrite := by
  by_cases hfree : m.comment = none ∨ overwrite = true
  · have honce : m.redocumented c templates projectName overwrite =
        { m with comment := (c.commentFor templates projectName m).or m.comment } := if_pos hfree
    have hagain : c.commentFor templates projectName
        { m with comment := (c.commentFor templates projectName m).or m.comment } =
          c.commentFor templates projectName m := rfl
    rw [honce, Method.redocumented]
    split
    · rw [hagain, ← Option.or_assoc, Option.or_self]
    · rfl
  · have honce : m.redocumented c templates projectName overwrite = m := if_neg hfree
    rw [honce, honce]

theorem takeEdits_generateSelection {s : Selection} {i : Nat} (hm : c.methods[i]? = some m) :
    m.takeEdits i (generateSelection c templates projectName s).edits =
      if i ∈ s.methods then m.redocumented c templates projectName s.overwrite else m := by
  rw [Method.takeEdits_eq_withComment]
  by_cases hdoc : ∃ text, Documents c templates projectName s i m text
  · obtain ⟨text, hdoc⟩ := hdoc
    obtain ⟨k, hk, hr⟩ := hdoc.rendered
    have hcomment : c.commentFor templates projectName m = some (DocComment.layout text) :=
      commentFor_eq_some_iff.2 ⟨k, text, hk, hr, hdoc.accepted, rfl⟩
    rw [takeEdits_comment_of_documents hm hdoc, if_pos hdoc.selected, Method.redocumented,
      if_pos hdoc.free, hcomment]
    rfl
  · rw [takeEdits_comment_of_not_documents hm fun text h => hdoc ⟨text, h⟩]
    split
    · next hi =>
      rw [Method.redocumented]
      split
      · next hfree =>
        have hnone : c.commentFor templates projectName m = none := by
          rw [Option.eq_none_iff_forall_ne_some]
          intro comment hsome
          obtain ⟨k, text, hk, hr, haccepted, -⟩ := commentFor_eq_some_iff.1 hsome
          exact hdoc ⟨text, hi, hfree, ⟨k, hk, hr⟩, haccepted⟩
        rw [hnone]
        rfl
      · rfl
    · rfl

end

namespace ClassModel

def chosen (c : ClassModel) (category : Accessor.Category) (keep : String → Bool) : List Nat :=
  (c.candidates category).filter fun i => (c.methods[i]?).any fun m => keep m.name

variable {c : ClassModel} {category : Accessor.Category} {keep : String → Bool}

theorem chosen_eq_filter_range :
    c.chosen category keep = (List.range c.methods.length).filter fun i =>
      (c.methods[i]?).any fun m => category.includes m.kind && keep m.name := by
  rw [chosen, candidates_eq_filter_range, List.filter_filter]
  refine List.filter_congr fun i _ => ?_
  cases c.methods[i]? with
  | none => rfl
  | some m => exact Bool.and_comm _ _

theorem mem_chosen {i : Nat} :
    i ∈ c.chosen category keep ↔
      ∃ m, c.methods[i]? = some m ∧ category.includes m.kind = true ∧ keep m.name = true := by
  rw [chosen_eq_filter_range, List.mem_filter, List.mem_range, Option.any_eq_true]
  constructor
  · rintro ⟨-, m, hm, hkept⟩
    exact ⟨m, hm, by simpa using hkept⟩
  · rintro ⟨m, hm, hkept⟩
    exact ⟨(List.getElem?_eq_some_iff.1 hm).1, m, hm, by simpa using hkept⟩

theorem ofKind_chosen (k : Accessor.Kind) :
    c.ofKind k (c.chosen category keep) =
      if category.includes k then
        (List.range c.methods.length).filter fun i =>
          (c.methods[i]?).any fun m => m.kind == k && keep m.name
      else [] := by
  rw [ofKind, chosen_eq_filter_range, List.filter_filter]
  split
  · next hk =>
    refine List.filter_congr fun i _ => ?_
    cases c.methods[i]? with
    | none => rfl
    | some m =>
      by_cases hm : m.kind = k
      · simp [hm, hk]
      · simp [beq_eq_false_iff_ne.2 hm]
  · next hk =>
    refine List.filter_eq_nil_iff.2 fun i _ => ?_
    cases c.methods[i]? with
    | none => simp
    | some m =>
      rw [Option.any_some, Bool.and_eq_true, beq_iff_eq]
      rintro ⟨rfl, hkept⟩
      simp [hk] at hkept

end ClassModel

def Selector.GoesByName (select : Selector) (keep : String → Bool) (overwrite : Bool) : Prop :=
  ∀ (c : ClassModel) (category : Accessor.Category),
    select c (c.candidates category) = some ⟨c.chosen category keep, overwrite⟩

theorem Selector.named_goesByName (names : List String) (overwrite : Bool) :
    (Selector.named names overwrite).GoesByName names.contains overwrite :=
  fun _ _ => rfl

theorem Selector.all_goesByName (overwrite : Bool) :
    (Selector.all overwrite).GoesByName (fun _ => true) overwrite := by
  intro c category
  have hall : c.chosen category (fun _ => true) = c.candidates category := by
    rw [ClassModel.chosen_eq_filter_range, ClassModel.candidates_eq_filter_range]
    simp only [Bool.and_true]
  rw [hall]
  rfl

section
variable {select : Selector} {keep : String → Bool} {overwrite : Bool}
  {category : Accessor.Category} {templates : Templates} {projectName : String} {c : ClassModel}

/-- Without candidates nothing is chosen, so a run need not be told apart from one that stops
early. -/
theorem run_of_goesByName (category : Accessor.Category) (templates : Templates)
    (projectName : String) (hs : select.GoesByName keep overwrite) (hi : c.isInterface = false) :
    let outcome := generateSelection c templates projectName ⟨c.chosen category keep, overwrite⟩
    let r := run category select templates projectName c
    r.1 = (c.takeEdits outcome.edits).1 ∧ r.2.outcome = outcome ∧
      r.2.rejections = (c.takeEdits outcome.edits).2 := by
  by_cases hc : c.candidates category = []
  · have hnone : c.chosen category keep = [] := by rw [ClassModel.chosen, hc, List.filter_nil]
    rw [run_of_candidates_eq_nil hi hc, hnone]
    exact ⟨rfl, rfl, rfl⟩
  · rw [run_eq_of_selected hi hc (hs c category)]
    exact ⟨rfl, rfl, rfl⟩

def Method.afterRun (c : ClassModel) (category : Accessor.Category) (keep : String → Bool)
    (overwrite : Bool) (templates : Templates) (projectName : String) (m : Method) : Method :=
  if category.includes m.kind && keep m.name then
    m.redocumented c templates projectName overwrite
  else m

theorem afterRun_of_not_includes {m : Method} (h : category.includes m.kind = false) :
    m.afterRun c category keep overwrite templates projectName = m := by
  rw [Method.afterRun, h]
  rfl

theorem afterRun_kind {m : Method} :
    (m.afterRun c category keep overwrite templates projectName).kind = m.kind := by
  unfold Method.afterRun
  split
  · exact redocumented_kind
  · rfl

theorem afterRun_name {m : Method} :
    (m.afterRun c category keep overwrite templates projectName).name = m.name := by
  unfold Method.afterRun
  split
  · exact redocumented_name
  · rfl

theorem afterRun_afterRun {m : Method} :
    (m.afterRun c category keep overwrite templates projectName).afterRun c category keep overwrite
      templates projectName = m.afterRun c category keep overwrite templates projectName := by
  conv_lhs => rw [Method.afterRun, afterRun_kind, afterRun_name]
  unfold Method.afterRun
  split
  · exact redocumented_redocumented
  · rfl

theorem run_class (hs : select.GoesByName keep overwrite) (hi : c.isInterface = false) :
    (run category select templates projectName c).1 =
      { c with methods :=
          c.methods.map (Method.afterRun c category keep overwrite templates projectName) } := by
  rw [(run_of_goesByName category templates projectName hs hi).1, ClassModel.takeEdits_class]
  simp only [ClassModel.mk.injEq, true_and]
  refine List.ext_getElem? fun i => ?_
  rw [List.getElem?_mapIdx, List.getElem?_map]
  cases hm : c.methods[i]? with
  | none => rfl
  | some m =>
    rw [Option.map_some, Option.map_some, takeEdits_generateSelection hm, Method.afterRun]
    simp only [ClassModel.mem_chosen, hm, Option.some.injEq, exists_eq_left', Bool.and_eq_true]

/-- A run changes nothing that a further run depends on. -/
theorem run_class_after {f : Method → Method} (hs : select.GoesByName keep overwrite)
    (hi : c.isInterface = false) :
    (run category select templates projectName { c with methods := c.methods.map f }).1 =
      { c with methods := c.methods.map fun m =>
          (f m).afterRun c category keep overwrite templates projectName } := by
  rw [run_class (c := { c with methods := c.methods.map f }) hs hi, List.map_map]
  rfl

theorem run_run (hs : select.GoesByName keep overwrite) :
    (run category select templates projectName
        (run category select templates projectName c).1).1 =
      (run category select templates projectName c).1 := by
  cases hi : c.isInterface with
  | true =>
    have hsame : (run category select templates projectName c).1 = c := run_eq_self (.inl hi)
    rw [hsame, hsame]
  | false =>
    rw [run_class hs hi, run_class_after hs hi]
    simp only [afterRun_afterRun]

theorem generate_congr {d : ClassModel} {template : String} {selected : List Nat}
    (h : ∀ i ∈ selected, generateOne d template projectName overwrite i =
      generateOne c template projectName overwrite i) :
    generate d template projectName overwrite selected =
      generate c template projectName overwrite selected := by
  induction selected with
  | nil => rfl
  | cons i is ih =>
    rw [generate_cons, generate_cons, h i List.mem_cons_self,
      ih fun j hj => h j (List.mem_cons_of_mem i hj)]

def outcomeOf (c : ClassModel) (templates : Templates) (projectName : String) (overwrite : Bool)
    (keep : String → Bool) (k : TemplateKind) : Outcome :=
  generate c (templates.get k) projectName overwrite
    ((List.range c.methods.length).filter fun i =>
      (c.methods[i]?).any fun m => m.kind == k.accessorKind && keep m.name)

theorem generateSelection_chosen :
    generateSelection c templates projectName ⟨c.chosen category keep, overwrite⟩ =
      (if category.includes .getter then
        outcomeOf c templates projectName overwrite keep .getter else {}) ++
      (if category.includes .setter then
        outcomeOf c templates projectName overwrite keep .setter else {}) := by
  simp only [generateSelection, ClassModel.ofKind_chosen]
  congr 1 <;> split <;> rfl

theorem Outcome.append_empty (o : Outcome) : o ++ ({} : Outcome) = o := by
  show Outcome.mk (o.edits ++ []) (o.skipped ++ []) (o.failures ++ []) = o
  simp only [List.append_nil]

theorem generateSelection_accessors :
    generateSelection c templates projectName ⟨c.chosen .accessors keep, overwrite⟩ =
      outcomeOf c templates projectName overwrite keep .getter ++
        outcomeOf c templates projectName overwrite keep .setter :=
  generateSelection_chosen

theorem generateSelection_getters :
    generateSelection c templates projectName ⟨c.chosen .getters keep, overwrite⟩ =
      outcomeOf c templates projectName overwrite keep .getter :=
  generateSelection_chosen.trans (Outcome.append_empty _)

theorem generateSelection_setters :
    generateSelection c templates projectName ⟨c.chosen .setters keep, overwrite⟩ =
      outcomeOf c templates projectName overwrite keep .setter :=
  generateSelection_chosen

theorem outcomeOf_map {f : Method → Method} {k : TemplateKind} (hkind : ∀ m, (f m).kind = m.kind)
    (hname : ∀ m, (f m).name = m.name) (hsame : ∀ m, m.kind = k.accessorKind → f m = m) :
    outcomeOf { c with methods := c.methods.map f } templates projectName overwrite keep k =
      outcomeOf c templates projectName overwrite keep k := by
  have hselected : ((List.range (c.methods.map f).length).filter fun i =>
        ((c.methods.map f)[i]?).any fun m => m.kind == k.accessorKind && keep m.name) =
      (List.range c.methods.length).filter fun i =>
        (c.methods[i]?).any fun m => m.kind == k.accessorKind && keep m.name := by
    rw [List.length_map]
    refine List.filter_congr fun i _ => ?_
    rw [List.getElem?_map]
    cases c.methods[i]? with
    | none => rfl
    | some m => rw [Option.map_some, Option.any_some, Option.any_some, hkind, hname]
  rw [outcomeOf, outcomeOf, hselected]
  refine generate_congr fun i hi => ?_
  obtain ⟨m, hm, hk⟩ := (Option.any_eq_true _ _).1 (List.mem_filter.1 hi).2
  have hfm : f m = m := hsame m (by simpa using (Bool.and_eq_true_iff.1 hk).1)
  rw [generateOne, generateOne, List.getElem?_map, hm, Option.map_some, hfm]
  rfl

theorem takeEdits_rejections_map {f : Method → Method} (hname : ∀ m, (f m).name = m.name)
    (es : List Edit) :
    (({ c with methods := c.methods.map f } : ClassModel).takeEdits es).2 =
      (c.takeEdits es).2 := by
  have hfault : ∀ e, ({ c with methods := c.methods.map f } : ClassModel).editFault? e =
      c.editFault? e := by
    intro e
    apply ClassModel.editFault?_congr
    rw [List.getElem?_map, Option.map_map]
    congr 1
    funext m
    exact hname m
  simp only [ClassModel.takeEdits_rejections, hfault]

theorem takeEdits_rejections_append (as bs : List Edit) :
    (c.takeEdits (as ++ bs)).2 = (c.takeEdits as).2 ++ (c.takeEdits bs).2 := by
  simp only [ClassModel.takeEdits_rejections, List.filterMap_append]

end

/-- A run over all accessors leaves the same class as a run over the getters and one over the
setters, in either order, and reports what the two report together. -/
def SplitsByKind (select : Selector) (templates : Templates) (projectName : String)
    (c : ClassModel) : Prop :=
  let both := run .accessors select templates projectName c
  let getters := run .getters select templates projectName c
  let setters := run .setters select templates projectName getters.1
  let settersFirst := run .setters select templates projectName c
  both.1 = setters.1 ∧
    both.1 = (run .getters select templates projectName settersFirst.1).1 ∧
    both.2.outcome = getters.2.outcome ++ setters.2.outcome ∧
    both.2.rejections = getters.2.rejections ++ setters.2.rejections

section
variable {select : Selector} {keep : String → Bool} {overwrite : Bool} {templates : Templates}
  {projectName : String} {c : ClassModel}

theorem splitsByKind_of_interface (hi : c.isInterface = true) :
    SplitsByKind select templates projectName c := by
  simp only [SplitsByKind, run_of_isInterface hi]
  exact ⟨trivial, trivial, rfl, rfl⟩

theorem afterRun_accessors (m : Method) :
    m.afterRun c .accessors keep overwrite templates projectName =
        (m.afterRun c .getters keep overwrite templates projectName).afterRun c .setters keep
          overwrite templates projectName ∧
      m.afterRun c .accessors keep overwrite templates projectName =
        (m.afterRun c .setters keep overwrite templates projectName).afterRun c .getters keep
          overwrite templates projectName := by
  have hkept : ∀ category, Accessor.Category.includes category m.kind =
      Accessor.Category.includes .accessors m.kind →
        m.afterRun c category keep overwrite templates projectName =
          m.afterRun c .accessors keep overwrite templates projectName := by
    intro category h
    rw [Method.afterRun, Method.afterRun, h]
  cases hk : m.kind with
  | getter =>
    have hsetters : m.afterRun c .setters keep overwrite templates projectName = m :=
      afterRun_of_not_includes (by rw [hk]; rfl)
    rw [hkept .getters (by rw [hk]; rfl), hsetters, hkept .getters (by rw [hk]; rfl)]
    exact ⟨(afterRun_of_not_includes (by rw [afterRun_kind, hk]; rfl)).symm, rfl⟩
  | setter =>
    have hgetters : m.afterRun c .getters keep overwrite templates projectName = m :=
      afterRun_of_not_includes (by rw [hk]; rfl)
    rw [hkept .setters (by rw [hk]; rfl), hgetters, hkept .setters (by rw [hk]; rfl)]
    exact ⟨rfl, (afterRun_of_not_includes (by rw [afterRun_kind, hk]; rfl)).symm⟩
  | other =>
    have hnone : ∀ category, m.afterRun c category keep overwrite templates projectName = m :=
      fun category => afterRun_of_not_includes (by rw [hk]; cases category <;> rfl)
    simp only [hnone, and_self]

theorem splitsByKind_of_goesByName (hs : select.GoesByName keep overwrite) :
    SplitsByKind select templates projectName c := by
  cases hi : c.isInterface with
  | true => exact splitsByKind_of_interface hi
  | false =>
    -- the second run sees the class that the first one has left
    let f := Method.afterRun c .getters keep overwrite templates projectName
    have hclass : (run .getters select templates projectName c).1 =
        { c with methods := c.methods.map f } := run_class hs hi
    have hsame : outcomeOf { c with methods := c.methods.map f } templates projectName overwrite
        keep .setter = outcomeOf c templates projectName overwrite keep .setter :=
      outcomeOf_map (fun m => afterRun_kind) (fun m => afterRun_name) fun m hm =>
        afterRun_of_not_includes (by rw [hm]; rfl)
    obtain ⟨-, hboth, hbothRejected⟩ := run_of_goesByName .accessors templates
      projectName hs hi
    obtain ⟨-, hgetters, hgettersRejected⟩ := run_of_goesByName .getters templates
      projectName hs hi
    obtain ⟨-, hsetters, hsettersRejected⟩ := run_of_goesByName .setters templates
      projectName (c := { c with methods := c.methods.map f }) hs hi
    rw [generateSelection_accessors] at hboth hbothRejected
    rw [generateSelection_getters] at hgetters hgettersRejected
    rw [generateSelection_setters, hsame] at hsetters hsettersRejected
    refine ⟨?_, ?_, ?_, ?_⟩
    · rw [run_class hs hi, hclass, run_class_after hs hi]
      congr 2
      funext m
      exact (afterRun_accessors m).1
    · rw [run_class hs hi, run_class hs hi, run_class_after hs hi]
      congr 2
      funext m
      exact (afterRun_accessors m).2
    · rw [hclass, hboth, hgetters, hsetters]
    · rw [hclass, hbothRejected, hgettersRejected, hsettersRejected, Outcome.edits_append,
        takeEdits_rejections_append, takeEdits_rejections_map fun m => afterRun_name]

end

/-- A second run with the same arguments leaves the class as the first one has left it. -/
theorem run_idempotent (category : Accessor.Category) (templates : Templates) (projectName : String)
    (overwrite : Bool) (c : ClassModel) :
    (let once := (run category (.all overwrite) templates projectName c).1
     (run category (.all overwrite) templates projectName once).1 = once) ∧
    ∀ names : List String,
      let once := (run category (.named names overwrite) templates projectName c).1
      (run category (.named names overwrite) templates projectName once).1 = once :=
  ⟨run_run (Selector.all_goesByName overwrite),
    fun names => run_run (Selector.named_goesByName names overwrite)⟩

theorem run_accessors_splits (templates : Templates) (projectName : String) (overwrite : Bool)
    (c : ClassModel) :
    SplitsByKind (.all overwrite) templates projectName c ∧
      ∀ names : List String, SplitsByKind (.named names overwrite) templates projectName c :=
  ⟨splitsByKind_of_goesByName (Selector.all_goesByName overwrite),
    fun names => splitsByKind_of_goesByName (Selector.named_goesByName names overwrite)⟩

end BeanDoc
