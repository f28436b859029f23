import Stencil.Proofs.Filter.Counterparts

/-! # Fallbacks in templates

    An output with a fallback prints what a block does that outputs the
    value under the condition that it counts as true, and otherwise the
    fallback.  Both end as an output of the value that is chosen does, also
    where that value cannot be printed. -/

namespace Stencil

/-! ## Section 1: Outputs of one value -/

namespace Render

/-- Writes the text of a value. -/
def printing (v : Value) : Render Signal := do
  write (← lift (v.native.print.mapError .operand))
  return .none

/-- Does a step, in this state, end as an output of the value does in a state
    with the same scope and the same output? -/
def Outputs (x : Render Signal) (run : Run) (v : Value) : Prop :=
  ∃ after, after.scope = run.scope ∧ after.out = run.out ∧ x run = printing v after

variable {engine : Engine} {run : Run} {v : Value} {α : Type}

theorem printing_of_ok {text : String} (printed : v.native.print = .ok text) (run : Run) :
    printing v run = .ok .none (run.writing [text]) := by
  have known : lift (v.native.print.mapError .operand) run = .ok text run := by
    rw [printed]
    rfl
  rw [printing, bind_of_ok known, bind_of_ok (write_eq text run)]
  rfl

theorem printing_of_error {cause : OperandFault} (failed : v.native.print = .error cause)
    (run : Run) : printing v run = .error (Fault.operand cause).failure run := by
  have known : lift (v.native.print.mapError .operand) run =
      .error (Fault.operand cause).failure run := by
    rw [failed]
    rfl
  rw [printing, bind_of_error known]

/-- What comes behind a step that changes neither scope nor output. -/
theorem outputs_bind {x : Render α} {f : α → Render Signal} {a : α} {mid : Run}
    (logged : run.Logged engine mid) (ended : x run = .ok a mid) (h : Outputs (f a) mid v) :
    Outputs (x >>= f) run v := by
  obtain ⟨after, scope, out, prints⟩ := h
  refine ⟨after, scope.trans logged.scope_eq, ?_, (bind_of_ok ended).trans prints⟩
  rw [out, logged.same]

end Render

namespace Node

open Render

variable {engine : Engine} {run : Run} {v w : Value} {e : Expr} {place : Place}

/-- A value that cannot be printed is nothing to blame a place for. -/
theorem outputs_single {n : Node} (h : Outputs (render engine n) run.next v) :
    Outputs (renderAll engine [n]) run v := by
  obtain ⟨after, scope, out, prints⟩ := h
  refine ⟨after, scope, out, ?_⟩
  -- a text is written, and what cannot be printed fails without a place
  cases printed : v.native.print with
  | ok text =>
    rw [printing_of_ok printed] at prints ⊢
    refine renderAll_cons_signal.2 ⟨.none, _, prints, ?_⟩
    rw [if_pos rfl, renderAll]
    rfl
  | error cause =>
    rw [printing_of_error printed] at prints ⊢
    have blamed : blamingOption n.place? (render engine n) run.next =
        .error (Fault.operand cause).failure after := by
      cases n.place? with
      | none => exact prints
      | some p =>
        show blaming p (render engine n) run.next = _
        rw [blaming, prints]
        rfl
    have ticked : tick run = .ok () run.next := rfl
    rw [renderAll, bind_of_ok ticked, bind_of_error blamed]

theorem outputs_output
    (value : ∀ moment, e.eval (engine.filters.atMoment moment) run.scope.names = .ok v) :
    Outputs (renderAll engine [.output e place]) run v := by
  apply outputs_single
  obtain ⟨mid, logged, ended⟩ := eval_ends run.next (value run.next.moment)
  rw [render]
  exact outputs_bind logged ended ⟨mid, rfl, rfl, rfl⟩

/-- A block outputs what the body that its condition chooses does. -/
theorem outputs_branch {body other : List Node} {t : Bool}
    (value : ∀ moment, e.eval (engine.filters.atMoment moment) run.scope.names = .ok v)
    (decides : v.truth = .ok t)
    (chosen : ∀ mid, mid.scope = run.scope →
      Outputs (renderAll engine (if t then body else other)) mid w) :
    Outputs (renderAll engine [.branch false [(e, body)] (some other) place]) run w := by
  apply outputs_single
  obtain ⟨mid, logged, ended⟩ := eval_ends run.next (value run.next.moment)
  have truth : lift v.truth mid = .ok t mid := by
    rw [decides]
    rfl
  rw [render, renderBranches]
  refine outputs_bind logged ended ?_
  have still : mid.Logged engine mid := mid.logged_refl
  refine outputs_bind still truth ?_
  have output := chosen mid logged.scope_eq
  cases t with
  | true => exact output
  | false =>
    rw [if_neg (by decide), renderBranches, renderOption]
    exact output

end Node

theorem Template.result_of_outputs {t : Template} {engine : Engine} {scope : Scope} {v : Value}
    (h : Render.Outputs (Node.renderAll engine t.nodes) ⟨scope, #[], #[], engine.moment⟩ v) :
    (t.renderIn engine scope).result =
      v.native.print.mapError fun cause => (Fault.operand cause).failure := by
  obtain ⟨after, -, out, prints⟩ := h
  cases printed : v.native.print with
  | ok text =>
    rw [Render.printing_of_ok printed] at prints
    have rendered : t.render engine ⟨scope, #[], #[], engine.moment⟩ =
        .ok () (after.writing [text]) := Render.bind_of_ok prints
    rw [renderIn, rendered]
    show Except.ok (String.join (after.writing [text]).out.toList) = _
    rw [Run.out_writing, out]
    simp [Except.mapError]
  | error cause =>
    rw [Render.printing_of_error printed] at prints
    have rendered : t.render engine ⟨scope, #[], #[], engine.moment⟩ =
        .error (Fault.operand cause).failure after := Render.bind_of_error prints
    rw [renderIn, rendered]
    rfl

/-! ## Section 2: Two templates -/

/-- A template that outputs a value with a fallback. -/
def defaultSource : String :=
  "\x7b\x7b v | default: w \x7d\x7d"

/-- A template that outputs a value if it counts as true, and otherwise the
    fallback. -/
def conditionSource : String :=
  "\x7b% if v %\x7d\x7b\x7b v \x7d\x7d\x7b% else %\x7d\x7b\x7b w \x7d\x7d\x7b% endif %\x7d"

/-- The mark of the output with a fallback. -/
def defaultMark : Mark :=
  ⟨defaultSource, ⟨1, 1⟩, "v | default: w", false, false⟩

/-- The mark of the condition. -/
def conditionMark : Mark :=
  ⟨"\x7b% if v %\x7d", ⟨1, 1⟩, "v", false, false⟩

/-- The mark of the output of the value. -/
def valueMark : Mark :=
  ⟨"\x7b\x7b v \x7d\x7d", ⟨1, 11⟩, "v", false, false⟩

/-- The mark of the output of the fallback. -/
def fallbackMark : Mark :=
  ⟨"\x7b\x7b w \x7d\x7d", ⟨1, 28⟩, "w", false, false⟩

/-- The only piece of the template with the condition. -/
def conditionPiece : Piece :=
  .branch false conditionMark [.output valueMark] []
    (some (⟨"\x7b% else %\x7d", ⟨1, 18⟩, "", false, false⟩, [.output fallbackMark]))
    ⟨"\x7b% endif %\x7d", ⟨1, 35⟩, "", false, false⟩

/-- The value, or the fallback. -/
def withDefault : Expr :=
  .filter (.var "v") "default" [.var "w"]

/-- The template that outputs a value with a fallback. -/
def defaultTemplate : Template :=
  ⟨[.output withDefault defaultMark.place], defaultSource⟩

/-- The template that outputs a value if it counts as true, and otherwise the
    fallback. -/
def conditionTemplate : Template :=
  ⟨[.branch false [(.var "v", [.output (.var "v") valueMark.place])]
    (some [.output (.var "w") fallbackMark.place]) conditionMark.place], conditionSource⟩

open Grammar Piece Text

theorem scan_defaultSource : Chunk.scan defaultSource = .ok (allChunks [.output defaultMark]) := by
  rfl

theorem scan_conditionSource : Chunk.scan conditionSource = .ok (allChunks [conditionPiece]) := by
  rfl

theorem written_v : (Expr.var "v").IsWritten "v" :=
  written_lastWord (w := "v") (isName_ofList rfl rfl) rfl

theorem written_w : (Expr.var "w").IsWritten "w" :=
  written_lastWord (w := "w") (isName_ofList rfl rfl) rfl

theorem expression_defaultMark : defaultMark.expression = .ok withDefault := by
  have called : Written [.operator .pipe, .keyword "default", .identifier "w"]
      " | default: w".toList :=
    .blank rfl (.lexeme (Lexeme.written_pipe _)
      (.blank rfl (.lexeme (@Lexeme.Written.keyword _ "default" (isName_ofList rfl rfl))
        (.blank rfl written_w))))
  have written : withDefault.IsWritten "v | default: w" :=
    .lexeme (Lexeme.written_word (w := "v") (isName_ofList rfl rfl) rfl _) called
  rw [Mark.expression, defaultMark, Expr.parseExpression_written written]
  rfl

theorem expression_conditionMark : conditionMark.expression = .ok (.var "v") := by
  rw [Mark.expression, conditionMark, Expr.parseExpression_written written_v]
  rfl

theorem expression_valueMark : valueMark.expression = .ok (.var "v") := by
  rw [Mark.expression, valueMark, Expr.parseExpression_written written_v]
  rfl

theorem expression_fallbackMark : fallbackMark.expression = .ok (.var "w") := by
  rw [Mark.expression, fallbackMark, Expr.parseExpression_written written_w]
  rfl

theorem compile_defaultSource : Template.compile defaultSource = .ok defaultTemplate := by
  refine Template.compile_of_pieces scan_defaultSource ?_
  simp only [nodes, node, expression_defaultMark]
  rfl

theorem compile_conditionSource : Template.compile conditionSource = .ok conditionTemplate := by
  refine Template.compile_of_pieces scan_conditionSource ?_
  simp only [conditionPiece, nodes, node, conditionNodes, otherwiseNodes,
    expression_conditionMark, expression_valueMark, expression_fallbackMark]
  rfl

/-! ## Section 3: One answer -/

/-- Do two sources compile to templates whose renderings end with the same
    output, or the same failure? -/
def Template.PrintAlike (engine : Engine) (scope : Scope) (source source' : String) : Prop :=
  ∃ t t', compile source = .ok t ∧ compile source' = .ok t' ∧
    (t.renderIn engine scope).result = (t'.renderIn engine scope).result

theorem Template.default_condition_alike {engine : Engine} {scope : Scope} {v w : Value} {t : Bool}
    (standard : engine.filters.find? "default" = (Filter.standard true).find? "default")
    (decides : v.truth = .ok t) (hv : v.native.Located) (hw : w.native.Located)
    (value : scope.get? "v" = some v.native) (fallback : scope.get? "w" = some w.native) :
    PrintAlike engine scope defaultSource conditionSource := by
  have bound (filters : Registry) : (Expr.var "v").eval filters scope.names = .ok v :=
    eval_bound value v.wrap_native filters
  have other (filters : Registry) : (Expr.var "w").eval filters scope.names = .ok w :=
    eval_bound fallback w.wrap_native filters
  have chosen (moment : Nat) : withDefault.eval (engine.filters.atMoment moment) scope.names =
      .ok (if t then v else w) := by
    have found : (engine.filters.atMoment moment).find? "default" =
        (Filter.standard true).find? "default" := standard
    rw [withDefault, Expr.eval, bound, Expr.evalAll, other, Expr.evalAll]
    show Registry.invoke _ "default" v [w] = _
    rw [← Registry.invoke_default true (.outside moment) decides hv hw, Registry.invoke, found]
    rfl
  refine ⟨_, _, compile_defaultSource, compile_conditionSource, ?_⟩
  -- the condition takes the branch that the filter chooses its result by
  have condition : Render.Outputs (Node.renderAll engine conditionTemplate.nodes)
      ⟨scope, #[], #[], engine.moment⟩ (if t then v else w) := by
    refine Node.outputs_branch (fun moment => bound _) decides fun mid here => ?_
    cases t with
    | true => exact Node.outputs_output fun moment => here ▸ bound _
    | false => exact Node.outputs_output fun moment => here ▸ other _
  exact (result_of_outputs (Node.outputs_output chosen)).trans (result_of_outputs condition).symm

/-- The standard filters agree with the operations on values, but for one.  A
    fallback takes the place of what counts as false, as it does in a
    condition.  A collection whose items can be counted has the size and the
    ends of the values that it consists of, as properties and at an index, and
    the filter for the size gives the property, unless the collection is
    bytes, which have no size for it.  If there is room for a list of the
    items, the iteration gives those values, the filters for the ends give the
    properties, and the one for the reversal what a reversed loop visits. -/
theorem Registry.standard_agrees (strict : Bool) (site : Double.Site) :
    (∀ v w : Value, v.Counted → v.native.Located → w.native.Located → ∃ t, v.truth = .ok t ∧
      (standardAt strict site).invoke "default" v [w] = .ok (if t then v else w) ∧
      ∀ (engine : Engine) (scope : Scope),
        engine.filters.find? "default" = (Filter.standard true).find? "default" →
        scope.get? "v" = some v.native → scope.get? "w" = some w.native →
          Template.PrintAlike engine scope defaultSource conditionSource) ∧
    ∀ (v : Value) (ns : List Native) (vs : List Value), v.native.IsCollection ns →
      Value.wrapAll ns = .ok vs → (∀ n ∈ ns, n.Located) → ns.length ≤ countLimit →
        v.Consists vs ∧ v.Sizes (standardAt strict site) ∧
        (ns.length ≤ listLimit → v.Answers (standardAt strict site) vs) := by
  constructor
  · intro v w counted hv hw
    obtain ⟨t, decides⟩ := counted.exists_truth
    refine ⟨t, decides, invoke_default strict site decides hv hw, ?_⟩
    intro engine scope standard value fallback
    exact Template.default_condition_alike standard decides hv hw value fallback
  · intro v ns vs collection wrapped located counted
    exact ⟨collection.consists counted wrapped, collection.sizes strict site counted,
      fun room => collection.answers strict site room wrapped located⟩

/-- An empty range has a fallback, and the odd numbers, from the last one to
    the first, are turned around. -/
theorem Registry.ranges_agree :
    (Value.range (.between 3 2)).Counted ∧ (Native.range (.between 3 2)).Located ∧
    (Native.text "none").Located ∧
    (standardAt true (.outside 0)).invoke "default" (.range (.between 3 2)) [.string "none"] =
      .ok (.string "none") ∧
    Template.PrintAlike (.standard .standard)
      (.ofBindings [("v", .range (.between 3 2)), ("w", .text "none")])
      defaultSource conditionSource ∧
    (Native.range oddsDown).IsCollection (oddsDown.members.map .int) ∧
    Value.wrapAll (oddsDown.members.map .int) = .ok (oddsDown.members.map (Value.ofInt ·)) ∧
    (∀ n ∈ oddsDown.members.map Native.int, n.Located) ∧
    (oddsDown.members.map Native.int).length ≤ countLimit ∧
    (oddsDown.members.map Native.int).length ≤ listLimit ∧
    (Value.range oddsDown).Consists (oddsDown.members.map (Value.ofInt ·)) ∧
    (Value.range oddsDown).Sizes (standardAt true (.outside 0)) ∧
    (Value.range oddsDown).Answers (standardAt true (.outside 0))
      (oddsDown.members.map (Value.ofInt ·)) := by
  obtain ⟨fallbacks, collections⟩ := standard_agrees true (.outside 0)
  have counted : (Value.range (.between 3 2)).Counted := by
    show Progression.length _ ≤ countLimit
    decide
  have odds : (Native.range oddsDown).IsCollection (oddsDown.members.map .int) :=
    .range oddsDown
  have wrapped := Value.wrapAll_ints oddsDown.members
  have located : ∀ n ∈ oddsDown.members.map Native.int, n.Located := by
    intro n hn
    obtain ⟨k, -, rfl⟩ := List.mem_map.1 hn
    exact nofun
  obtain ⟨t, decides, replaced, alike⟩ := fallbacks (.range (.between 3 2)) (.string "none")
    counted nofun nofun
  cases decides
  have listed : (oddsDown.members.map Native.int).length ≤ listLimit := by decide
  have countedOdds := Nat.le_trans listed listLimit_le_countLimit
  obtain ⟨consists, sizes, answers⟩ :=
    collections (.range oddsDown) _ _ odds wrapped located countedOdds
  exact ⟨counted, nofun, nofun, replaced, alike _ _ rfl rfl rfl, odds, wrapped, located,
    countedOdds, listed, consists, sizes, answers listed⟩

/-- The filter for the size does not give the property of every collection: of
    two bytes it counts none. -/
theorem Registry.size_skips_bytes :
    ¬ ∀ (v : Value) (ns : List Native) (vs : List Value), v.native.IsCollection ns →
      Value.wrapAll ns = .ok vs → (∀ n ∈ ns, n.Located) → ns.length ≤ listLimit →
        (Filter.standard true).invoke "size" v [] = v.property "size" := by
  intro agree
  have located : ∀ n ∈ [Native.int 104, .int 105], n.Located := by
    intro n hn
    simp only [List.mem_cons, List.not_mem_nil, or_false] at hn
    rcases hn with rfl | rfl <;> exact nofun
  have same := agree (.bytes [104, 105]) [.int 104, .int 105] [.ofInt 104, .ofInt 105]
    (.bytes [104, 105]) rfl located (by decide)
  have counted : (Value.bytes [104, 105]).property "size" = .ok (.ofInt 2) := rfl
  have skipped : (Filter.standard true).invoke "size" (.bytes [104, 105]) [] = .ok (.ofInt 0) := rfl
  rw [counted, skipped] at same
  cases same

end Stencil
