import BeanDoc.Proofs.ReferenceTemplate
import BeanDoc.Template.Render

/-! What becomes of plain text and references on the way from the expansion of a template to the
text that it renders to: tokens, statements, and the output of their execution. -/

namespace BeanDoc.Template

def tokensFrom (line : Nat) (cs : List Char) : List Slot → List Located
  | [] => dataTokens line cs
  | s :: slots =>
    let start := lineAfter line cs
    dataTokens line cs ++ ⟨.outputStart, start⟩ :: ⟨.ident s.target.name, start⟩ ::
      ⟨.outputEnd, start⟩ :: tokensFrom start s.after slots

def statementsFrom (line : Nat) (cs : List Char) : List Slot → List Stmt
  | [] => if cs.isEmpty then [] else [.text cs]
  | s :: slots =>
    let start := lineAfter line cs
    (if cs.isEmpty then [] else [.text cs]) ++ .output (.name start s.target.name) ::
      statementsFrom start s.after slots

section
variable {cs rest : List Char}

theorem cutAtBlock_cons {c : Char} (h : Piece.opening? (c :: rest) = none) (hne : rest ≠ []) :
    cutAtBlock (c :: rest) = (c :: (cutAtBlock rest).1, (cutAtBlock rest).2) := by
  cases rest with
  | nil => exact absurd rfl hne
  | cons d rest =>
    have hnone : (if c = '{' then Block.ofOpener? d else none) = none := by
      by_cases hc : c = '{'
      · subst hc
        exact h
      · exact if_neg hc
    rw [cutAtBlock, hnone]

theorem cutAtBlock_text (h : OpensNone [] cs) : cutAtBlock cs = (cs, none) := by
  induction cs with
  | nil => rfl
  | cons c cs ih =>
    have hopen : Piece.opening? (c :: cs) = none := by simpa using h.1
    cases cs with
    | nil => rfl
    | cons d cs => rw [cutAtBlock_cons hopen (List.cons_ne_nil d cs), ih h.2]

theorem cutAtBlock_output (h : IsVerbatim cs) (hbrace : cs.getLast? ≠ some '{') :
    cutAtBlock (cs ++ '{' :: '{' :: rest) = (cs, some (.output, rest)) := by
  induction cs with
  | nil => rfl
  | cons c cs ih =>
    have hopen : Piece.opening? (c :: (cs ++ '{' :: '{' :: rest)) = none := by
      refine opening?_cons_append h.noBlock ?_
      rintro rfl rfl
      exact absurd rfl hbrace
    have hlast : cs.getLast? ≠ some '{' := by
      cases cs with
      | nil => simp
      | cons d cs => rwa [List.getLast?_cons_cons] at hbrace
    rw [List.cons_append, cutAtBlock_cons hopen (by simp), ih h.tail hlast]

end

section
variable {cs : List Char} {s : Slot}

theorem step_text (line : Nat) (h : OpensNone [] cs) :
    step (.text false) line cs = .go (dataTokens line cs) (.text false) (lineAfter line cs) [] := by
  simp [step, stepText, cutAtBlock_text h, lineAfter]

theorem step_opening (line : Nat) (h : IsVerbatim cs) (hbrace : cs.getLast? ≠ some '{')
    (rest : List Char) :
    step (.text false) line (cs ++ '{' :: '{' :: ' ' :: rest) =
      .go (dataTokens line cs ++ [⟨.outputStart, lineAfter line cs⟩]) (.inside .output 0)
        (lineAfter line cs) (' ' :: rest) := by
  have hcut : cutAtBlock (cs ++ '{' :: '{' :: ' ' :: rest) = (cs, some (.output, ' ' :: rest)) :=
    cutAtBlock_output h hbrace
  simp [step, stepText, hcut, openBlock, dropSign, lineAfter]

theorem step_name (line : Nat) (v : Variable) (rest : List Char) :
    step (.inside .output 0) line (' ' :: (v.name.toList ++ ' ' :: '}' :: '}' :: rest)) =
      .go [⟨.ident v.name, line⟩] (.inside .output 0) line (' ' :: '}' :: '}' :: rest) := by
  cases v <;> rfl

theorem step_closing (line : Nat) (rest : List Char) :
    step (.inside .output 0) line (' ' :: '}' :: '}' :: rest) =
      .go [⟨.outputEnd, line⟩] (.text false) line rest := rfl

end

theorem scanFrom_cons {fuel : Nat} {mode mode' : Mode} {line line' : Nat} {cs rest : List Char}
    {toks : List Located} (hne : cs ≠ []) (h : step mode line cs = .go toks mode' line' rest) :
    scanFrom (fuel + 1) mode line cs = ⟨toks ++ (scanFrom fuel mode' line' rest).tokens,
      (scanFrom fuel mode' line' rest).fault⟩ := by
  cases cs with
  | nil => exact absurd rfl hne
  | cons c cs => rw [scanFrom, h]

theorem scanFrom_nil (fuel : Nat) (mode : Mode) (line : Nat) :
    scanFrom fuel mode line [] = ⟨[], none⟩ := by
  cases fuel <;> rfl

theorem scanFrom_text {cs : List Char} (h : OpensNone [] cs) (line : Nat) {fuel : Nat}
    (hfuel : cs.length ≤ fuel) :
    scanFrom fuel (.text false) line cs = ⟨tokensFrom line cs [], none⟩ := by
  by_cases hnil : cs = []
  · subst hnil
    exact scanFrom_nil fuel _ line
  · obtain ⟨fuel, rfl⟩ := Nat.exists_eq_add_of_le' (List.length_pos_iff.2 hnil |>.trans_le hfuel)
    rw [scanFrom_cons hnil (step_text line h), scanFrom_nil, List.append_nil, tokensFrom]

theorem scanFrom_alternates {cs : List Char} {slots : List Slot} (h : Alternates cs slots)
    (line : Nat) {fuel : Nat} (hfuel : (cs ++ slots.flatMap Slot.expanded).length ≤ fuel) :
    scanFrom fuel (.text false) line (cs ++ slots.flatMap Slot.expanded) =
      ⟨tokensFrom line cs slots, none⟩ := by
  induction h generalizing line fuel with
  | text hcs =>
    rw [List.flatMap_nil, List.append_nil] at hfuel ⊢
    exact scanFrom_text (hcs.opensNone (by simp)) line hfuel
  | @slot cs s slots hcs hbrace hend rest ih =>
    have hsource : cs ++ (s :: slots).flatMap Slot.expanded = cs ++ '{' :: '{' :: ' ' ::
        (s.target.name.toList ++ ' ' :: '}' :: '}' ::
          (s.after ++ slots.flatMap Slot.expanded)) := by
      simp [Slot.expanded]
    rw [hsource] at hfuel ⊢
    simp only [List.length_append, List.length_cons] at hfuel
    obtain ⟨fuel, rfl⟩ : ∃ more, fuel = more + 3 := ⟨fuel - 3, by omega⟩
    have hrest : (s.after ++ slots.flatMap Slot.expanded).length ≤ fuel := by
      rw [List.length_append]
      omega
    -- one step up to the name and behind the delimiter, one over the name, one to the end
    rw [scanFrom_cons (by simp) (step_opening line hcs hbrace _),
      scanFrom_cons (by simp) (step_name _ _ _), scanFrom_cons (by simp) (step_closing _ _),
      ih _ hrest]
    simp [tokensFrom]

theorem tokens_expanded (t : ReferenceTemplate) :
    tokens (t.lead ++ t.slots.flatMap Slot.expanded) = ⟨tokensFrom 1 t.lead t.slots, none⟩ :=
  scanFrom_alternates t.alternates 1 le_rfl

namespace Parser

def closing (line : Nat) (rest : List Located) : Stream :=
  ⟨⟨.outputEnd, line⟩ :: rest, line, none, [], false⟩

def keywords : List String :=
  ["true", "True", "false", "False", "none", "None", "not"]

section
variable {s : Stream} {e : Expr} {line : Nat} {rest : List Located}

theorem bind_eq_of_ok {α β : Type} {p : Parser α} {f : α → Parser β} {a : α} {s t : Stream}
    (h : p s = .ok (a, t)) : (p >>= f) s = f a t := by
  simp only [bind, h]

theorem exists_peekLine (s : Stream) : ∃ l, peekLine s = .ok (l, s) := by
  unfold peekLine
  split
  · exact ⟨_, rfl⟩
  · exact ⟨_, rfl⟩

theorem level_eq_of_closing {sub : Parser Expr} {op? : Token → Option Combine}
    (h : sub s = .ok (e, closing line rest)) (hop : op? .outputEnd = none) :
    level sub op? s = .ok (e, closing line rest) := by
  obtain ⟨l, hl⟩ := exists_peekLine s
  have hpeek : peek (closing line rest) = .ok (some .outputEnd, closing line rest) := rfl
  rw [level, bind_eq_of_ok hl, bind_eq_of_ok h]
  show chain sub op? l _ e (closing line rest) = _
  rw [chain, bind_eq_of_ok hpeek, Option.bind_some, hop]
  rfl

theorem filters_closing (n : Nested) (fuel : Nat) :
    filters n fuel e (closing line rest) = .ok (e, closing line rest) := by
  cases fuel <;> rfl

theorem postfixes_closing (n : Nested) (start fuel : Nat) :
    postfixes n start fuel e (closing line rest) = .ok (e, closing line rest) := by
  cases fuel <;> rfl

theorem conditionals_closing (sub : Parser Expr) (fuel : Nat) :
    conditionals sub fuel e (closing line rest) = .ok (e, closing line rest) := by
  cases fuel <;> rfl

end

variable {x : String} {n : Nested} {inner : Parser Expr} {line last : Nat} {rest : List Located}

def named (x : String) (line last : Nat) (rest : List Located) : Stream :=
  ⟨⟨.ident x, line⟩ :: ⟨.outputEnd, line⟩ :: rest, last, none, [], false⟩

theorem primary_named (hn : n.bracketed = some inner) (hx : x ∉ keywords) :
    primary n (named x line last rest) = .ok (.name line x, closing line rest) := by
  have hline : peekLine (named x line last rest) = .ok (line, named x line last rest) := rfl
  have hnext : next (named x line last rest) = .ok (some (.ident x), closing line rest) := rfl
  unfold primary
  simp only [hn]
  rw [bind_eq_of_ok hline, bind_eq_of_ok hnext]
  dsimp only
  split
  all_goals first
    | exact absurd (by decide) hx
    | rfl

/-- A name at the start of an output block is read whole, through all the levels. -/
theorem conditional_named (hn : n.bracketed = some inner) (hx : x ∉ keywords) :
    conditional n (named x line last rest) = .ok (.name line x, closing line rest) := by
  have hmark : ∀ m, skipMark m (named x line last rest) = .ok (false, named x line last rest) :=
    fun _ => rfl
  have hline : peekLine (named x line last rest) = .ok (line, named x line last rest) := rfl
  have hnot : skipIdent "not" (named x line last rest) = .ok (false, named x line last rest) := by
    have hname : Token.isIdent "not" (.ident x) = false := by
      rw [Token.isIdent, beq_eq_false_iff_ne]
      rintro rfl
      exact hx (by decide)
    have hmatch : matchesNext (Token.isIdent "not") (named x line last rest) =
        .ok (false, named x line last rest) := by
      rw [← hname]
      rfl
    rw [skipIdent, skipIf, bind_eq_of_ok hmatch]
    rfl
  have hsize : size (named x line last rest) = .ok (rest.length + 2, named x line last rest) := rfl
  have hnegated : ∀ fuel, negated n (fuel + 1) (named x line last rest) =
      .ok (.name line x, closing line rest) := by
    intro fuel
    rw [negated, bind_eq_of_ok hline, bind_eq_of_ok (hmark "-")]
    exact primary_named hn hx
  have hoperand : operand n (named x line last rest) = .ok (.name line x, closing line rest) := by
    rw [operand, bind_eq_of_ok hline, bind_eq_of_ok hsize, bind_eq_of_ok (hnegated _)]
    exact postfixes_closing n _ _
  -- from here on each level only looks for an operator of its own, and finds the end of the block
  have hunary : unary n (named x line last rest) = .ok (.name line x, closing line rest) := by
    rw [unary, bind_eq_of_ok hoperand]
    exact filters_closing n _
  have hsum : sum n (named x line last rest) = .ok (.name line x, closing line rest) :=
    level_eq_of_closing (level_eq_of_closing (level_eq_of_closing (level_eq_of_closing hunary rfl)
      rfl) rfl) rfl
  have hcomparison : comparison n (named x line last rest) =
      .ok (.name line x, closing line rest) := by
    have hlast : lastLine (named x line last rest) = .ok (last, named x line last rest) := rfl
    rw [comparison, bind_eq_of_ok hlast, bind_eq_of_ok hsum]
    rfl
  have hnegations : negations n (named x line last rest) =
      .ok (.name line x, closing line rest) := by
    rw [negations, bind_eq_of_ok hsize, negation, bind_eq_of_ok hline, bind_eq_of_ok hnot]
    exact hcomparison
  have hdisjunction : disjunction n (named x line last rest) =
      .ok (.name line x, closing line rest) :=
    level_eq_of_closing (level_eq_of_closing hnegations rfl) rfl
  rw [conditional, bind_eq_of_ok hdisjunction]
  exact conditionals_closing _ _

theorem expressionAt_named (depth : Nat) (hx : x ∉ keywords) :
    expressionAt (depth + 2) true (named x line last rest) =
      .ok (.name line x, closing line rest) :=
  conditional_named rfl hx

section
variable {expr : Parser Expr} {stmt : Parser Stmt} {names : List String} {fuel : Nat}
  {ss : List Stmt} {t : Stream}

theorem bodyItems_data {cs : List Char}
    (h : bodyItems expr stmt names fuel ⟨rest, line, none, [], false⟩ = .ok (ss, t)) :
    bodyItems expr stmt names (fuel + 1) ⟨⟨.data cs, line⟩ :: rest, last, none, [], false⟩ =
      .ok (.text cs :: ss, t) := by
  have hnext : next ⟨⟨.data cs, line⟩ :: rest, last, none, [], false⟩ =
      .ok (some (.data cs), ⟨rest, line, none, [], false⟩) := rfl
  rw [bodyItems, bind_eq_of_ok hnext]
  dsimp only
  rw [bind_eq_of_ok h]
  rfl

theorem bodyItems_output {e : Expr}
    (he : expr (named x line line rest) = .ok (e, closing line rest))
    (h : bodyItems expr stmt names fuel ⟨rest, line, none, [], false⟩ = .ok (ss, t)) :
    bodyItems expr stmt names (fuel + 1) ⟨⟨.outputStart, line⟩ :: ⟨.ident x, line⟩ ::
      ⟨.outputEnd, line⟩ :: rest, last, none, [], false⟩ = .ok (.output e :: ss, t) := by
  have hnext : next ⟨⟨.outputStart, line⟩ :: ⟨.ident x, line⟩ :: ⟨.outputEnd, line⟩ :: rest, last,
      none, [], false⟩ = .ok (some .outputStart, named x line line rest) := rfl
  have hend : expect Token.isOutputEnd "end of variable block" (closing line rest) =
      .ok ((), ⟨rest, line, none, [], false⟩) := rfl
  rw [bodyItems, bind_eq_of_ok hnext]
  dsimp only
  rw [bind_eq_of_ok he, bind_eq_of_ok hend, bind_eq_of_ok h]
  rfl

end

theorem name_not_mem_keywords (v : Variable) : v.name ∉ keywords := by
  cases v <;> decide

section
variable {expr : Parser Expr} {stmt : Parser Stmt} {names : List String}

theorem bodyItems_dataTokens {ss : List Stmt} {rest : List Located}
    (h : ∀ last fuel, rest.length < fuel →
      ∃ t, bodyItems expr stmt names fuel ⟨rest, last, none, [], false⟩ = .ok (ss, t))
    (line last : Nat) (cs : List Char) {fuel : Nat}
    (hfuel : (dataTokens line cs ++ rest).length < fuel) :
    ∃ t, bodyItems expr stmt names fuel ⟨dataTokens line cs ++ rest, last, none, [], false⟩ =
      .ok ((if cs.isEmpty then [] else [.text cs]) ++ ss, t) := by
  cases cs with
  | nil => exact h last fuel hfuel
  | cons c cs =>
    obtain ⟨fuel, rfl⟩ := Nat.exists_eq_add_of_le' (Nat.zero_lt_of_lt hfuel)
    obtain ⟨t, ht⟩ := h line fuel (Nat.lt_of_succ_lt_succ hfuel)
    exact ⟨t, bodyItems_data ht⟩

theorem bodyItems_tokensFrom
    (hexpr : ∀ (v : Variable) (line : Nat) (rest : List Located),
      expr (named v.name line line rest) = .ok (.name line v.name, closing line rest))
    (slots : List Slot) (line last : Nat) (cs : List Char) {fuel : Nat}
    (hfuel : (tokensFrom line cs slots).length < fuel) :
    ∃ t, bodyItems expr stmt names fuel ⟨tokensFrom line cs slots, last, none, [], false⟩ =
      .ok (statementsFrom line cs slots, t) := by
  induction slots generalizing line last cs fuel with
  | nil =>
    have hdone : ∀ last fuel, ([] : List Located).length < fuel →
        ∃ t, bodyItems expr stmt names fuel ⟨[], last, none, [], false⟩ = .ok ([], t) := by
      intro last fuel hpos
      obtain ⟨fuel, rfl⟩ := Nat.exists_eq_add_of_le' hpos
      exact ⟨_, rfl⟩
    rw [tokensFrom] at hfuel ⊢
    rw [← List.append_nil (dataTokens line cs)] at hfuel ⊢
    simpa [statementsFrom] using bodyItems_dataTokens hdone line last cs hfuel
  | cons s slots ih =>
    refine bodyItems_dataTokens (fun last fuel hlength => ?_) line last cs hfuel
    obtain ⟨fuel, rfl⟩ := Nat.exists_eq_add_of_le' (Nat.zero_lt_of_lt hlength)
    simp only [List.length_cons] at hlength
    have hrest : (tokensFrom (lineAfter line cs) s.after slots).length < fuel := by omega
    obtain ⟨t, ht⟩ := ih (lineAfter line cs) (lineAfter line cs) s.after hrest
    exact ⟨t, bodyItems_output (hexpr s.target _ _) ht⟩

end

end Parser

theorem parse_of_tokens {source cs : List Char} {slots : List Slot}
    (h : tokens source = ⟨tokensFrom 1 cs slots, none⟩) :
    parse source = .ok (statementsFrom 1 cs slots) := by
  have hexpr : ∀ (v : Variable) (line : Nat) (rest : List Located),
      Parser.expressionAt Parser.depthLimit true (Parser.named v.name line line rest) =
        .ok (.name line v.name, Parser.closing line rest) :=
    fun v _ _ => Parser.expressionAt_named 148 (Parser.name_not_mem_keywords v)
  have hbody : ∃ s, Parser.bodyAt Parser.depthLimit [] ⟨tokensFrom 1 cs slots, 1, none, [], false⟩ =
      .ok (statementsFrom 1 cs slots, s) :=
    Parser.bodyItems_tokensFrom hexpr slots 1 1 cs (Nat.lt_succ_self _)
  obtain ⟨s, hs⟩ := hbody
  rw [parse, h]
  simp only [hs, Except.map]

def State.printed (out : String) : State :=
  { frames := [{ base := .context }], out := out }

theorem Eval.bind_eq_of_ok {α β : Type} {p : Eval α} {f : α → Eval β} {a : α} {s t : State}
    (h : p s = .ok (a, t)) : (p >>= f) s = f a t := by
  simp only [bind, h]

theorem blocksOf_statementsFrom (line : Nat) (cs : List Char) (slots : List Slot) :
    blocksOf (statementsFrom line cs slots) = [] := by
  have htext : ∀ (cs : List Char) (ss : List Stmt),
      blocksOf ((if cs.isEmpty then [] else [.text cs]) ++ ss) = blocksOf ss := by
    intro cs ss
    cases cs <;> simp [blocksOf, Stmt.blocks]
  induction slots generalizing line cs with
  | nil =>
    rw [statementsFrom, ← List.append_nil (if cs.isEmpty then _ else _), htext, blocksOf]
  | cons slot slots ih =>
    rw [statementsFrom, htext, blocksOf, ih]
    simp only [Stmt.blocks, List.append_nil]

theorem lookup_bindings (c : Context) (v : Variable) :
    c.bindings.lookup v.name = (v.value? c).map fun s => Value.string s := by
  rcases c with ⟨_ | field, _ | fieldType, className, fullClassName, projectName⟩ <;>
    cases v <;> rfl

theorem valueOf_printed (c : Context) (v : Variable) (out : String) :
    (State.printed out).valueOf c.bindings v.name =
      ((v.value? c).map fun s => Value.string s).getD .undefined := by
  have hglobal : globals.lookup v.name = none := by cases v <;> rfl
  have hload : (State.printed out).load c.bindings v.name =
      (v.value? c).map fun s => Value.string s := by
    simp [State.printed, State.load, State.find, lookup_bindings, hglobal]
  rw [State.valueOf, State.valueOf?, hload]
  cases v.value? c <;> rfl

section
variable {c : Context} {env : Environment}

theorem exec_text (cs : List Char) (out : String) :
    (Stmt.text cs).exec env (State.printed out) =
      .ok ((), State.printed (out ++ String.ofList cs)) := rfl

theorem exec_output (henv : env.context = c.bindings) (line : Nat) (v : Variable) (out : String) :
    (Stmt.output (.name line v.name)).exec env (State.printed out) =
      .ok ((), State.printed (out ++ (v.value? c).getD "")) := by
  have heval : (Expr.name line v.name).eval env (State.printed out) =
      .ok (((v.value? c).map fun s => Value.string s).getD .undefined, State.printed out) := by
    rw [Expr.eval, henv, ← valueOf_printed c v out]
  rw [Stmt.exec]
  refine (Eval.bind_eq_of_ok heval).trans ?_
  cases v.value? c <;> rfl

theorem execAll_text (cs : List Char) (ss : List Stmt) (out : String) :
    execAll env ((if cs.isEmpty then [] else [.text cs]) ++ ss) (State.printed out) =
      execAll env ss (State.printed (out ++ String.ofList cs)) := by
  cases cs with
  | nil => simp
  | cons c cs =>
    rw [List.isEmpty_cons, if_neg (by decide), List.singleton_append, execAll,
      Eval.bind_eq_of_ok (exec_text (c :: cs) out)]

/-- Each statement prints its part, so that the output grows by the filled template. -/
theorem execAll_statementsFrom (henv : env.context = c.bindings) (slots : List Slot) (line : Nat)
    (cs : List Char) (out : String) :
    execAll env (statementsFrom line cs slots) (State.printed out) =
      .ok ((), State.printed (out ++ String.ofList (cs ++ slots.flatMap (Slot.filled c)))) := by
  induction slots generalizing line cs out with
  | nil =>
    have htext : execAll env ((if cs.isEmpty then [] else [.text cs]) ++ []) (State.printed out) =
        execAll env [] (State.printed (out ++ String.ofList cs)) := execAll_text cs [] out
    rw [List.append_nil] at htext
    rw [statementsFrom, htext, execAll, List.flatMap_nil, List.append_nil]
    rfl
  | cons slot slots ih =>
    rw [statementsFrom, execAll_text, execAll, Eval.bind_eq_of_ok (exec_output henv _ _ _), ih]
    simp [Slot.filled, String.ofList_append, String.append_assoc]

end

theorem render_of_tokens {template : String} {cs : List Char} {slots : List Slot}
    (h : tokens (expand template).toList = ⟨tokensFrom 1 cs slots, none⟩) (c : Context) :
    render template c = .ok (String.ofList (cs ++ slots.flatMap (Slot.filled c))) := by
  have henv : (environment c.bindings (depthLimit + 1)).context = c.bindings := rfl
  have hexec := execAll_statementsFrom henv slots 1 cs ""
  have hbody : renderStatements c.bindings (statementsFrom 1 cs slots) =
      .ok (String.ofList (cs ++ slots.flatMap (Slot.filled c))) := by
    rw [renderStatements, blocksOf_statementsFrom, ← State.printed, hexec]
    simp [Except.map, State.printed]
  rw [render, parse_of_tokens h]
  simp only [hbody]

theorem render_source (t : ReferenceTemplate) (c : Context) :
    render t.source c = .ok (t.filled c) := by
  have htokens : tokens (expand t.source).toList = ⟨tokensFrom 1 t.lead t.slots, none⟩ := by
    rw [expand_source, String.toList_ofList, tokens_expanded]
  exact render_of_tokens htokens c

theorem render_of_opensNone {template : String} (h : OpensNone [] (expand template).toList)
    (c : Context) : render template c = .ok (expand template) := by
  have htokens : tokens (expand template).toList =
      ⟨tokensFrom 1 (expand template).toList [], none⟩ := scanFrom_text h 1 le_rfl
  rw [render_of_tokens htokens, List.flatMap_nil, List.append_nil, String.ofList_toList]

end BeanDoc.Template
