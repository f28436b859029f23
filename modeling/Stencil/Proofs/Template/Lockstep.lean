import Stencil.Proofs.Loop.Calls
import Stencil.Proofs.Statement.Agreement

/-! # Two renderings in lockstep

    Two renderings of the same nodes go through the same steps as long as
    their scopes are related: what the expressions give is the same, so the
    same bodies are entered with the same items, and the scopes stay related.
    The only way out is an error of the first rendering, where that is
    allowed. -/

namespace Stencil

/-! ## Section 1: Related renderings -/

/-- Are two states the same but for the scopes, which are related, and the
    debug logs? -/
structure Run.Related (R : Scope → Scope → Prop) (run run' : Run) : Prop where
  scope : R run.scope run'.scope
  out : run.out = run'.out
  moment : run.moment = run'.moment

/-- Does the second outcome follow the first one?  Both are the same, and
    the states are related; in lenient comparison an error is followed by
    anything. -/
inductive Run.Paired {α : Type} (lenient : Prop) (R : Scope → Scope → Prop) :
    EStateM.Result Failure Run α → EStateM.Result Failure Run α → Prop
  | ok {a : α} {run run' : Run} : Related R run run' → Paired lenient R (.ok a run) (.ok a run')
  | error {failure : Failure} {run run' : Run} : Related R run run' →
      Paired lenient R (.error failure run) (.error failure run')
  | failed {failure : Failure} {run : Run} {outcome : EStateM.Result Failure Run α} :
      lenient → Paired lenient R (.error failure run) outcome

/-- Does the second step follow the first one from all related states? -/
def Render.Follows {α : Type} (lenient : Prop) (R : Scope → Scope → Prop) (x y : Render α) : Prop :=
  ∀ run run' : Run, run.Related R run' → Run.Paired lenient R (x run) (y run')

theorem Run.Related.logged {R : Scope → Scope → Prop} {engine engine' : Engine}
    {run run' after after' : Run} (h : run.Related R run') (first : run.Logged engine after)
    (second : run'.Logged engine' after') : after.Related R after' := by
  rw [first.same, second.same]
  exact ⟨h.scope, h.out, h.moment⟩

namespace Render

variable {α β : Type} {lenient : Prop} {R : Scope → Scope → Prop}

theorem follows_pure (a : α) : Follows lenient R (pure a : Render α) (pure a) :=
  fun _ _ related => .ok related

theorem Follows.bind {x y : Render α} {f g : α → Render β} (h : Follows lenient R x y)
    (k : ∀ a, Follows lenient R (f a) (g a)) : Follows lenient R (x >>= f) (y >>= g) := by
  intro run run' related
  have first := h run run' related
  cases left : x run with
  | ok a mid =>
    rw [left] at first
    generalize right : y run' = outcome at first
    cases first with
    | ok together =>
      rw [bind_of_ok left, bind_of_ok right]
      exact k a _ _ together
  | error failure mid =>
    rw [left] at first
    rw [bind_of_error left]
    generalize right : y run' = outcome at first
    -- an error of the first rendering ends it, and the second one if it follows
    cases first with
    | error together =>
      rw [bind_of_error right]
      exact .error together
    | failed allowed => exact .failed allowed

theorem follows_lift {x y : Except Fault α} (h : Agrees lenient x y) :
    Follows lenient R (lift x) (lift y) := by
  obtain rfl | ⟨allowed, fault, rfl⟩ := h
  · cases x with
    | ok a => exact follows_pure a
    | error fault => exact fun _ _ related => .error related
  · exact fun _ _ _ => .failed allowed

/-- The same computation without effects on both sides. -/
theorem follows_lift_self (x : Except Fault α) : Follows lenient R (lift x) (lift x) :=
  follows_lift (agrees_refl x)

/-- The same change of the states on both sides. -/
theorem follows_modify {g : Run → Run}
    (h : ∀ run run' : Run, run.Related R run' → (g run).Related R (g run')) :
    Follows lenient R (modify g) (modify g) :=
  fun run run' related => .ok (h run run' related)

theorem follows_write (piece : String) : Follows lenient R (write piece) (write piece) :=
  follows_modify fun _ _ related =>
    ⟨related.scope, congrArg (·.push piece) related.out, related.moment⟩

theorem follows_tick : Follows lenient R tick tick :=
  follows_modify fun _ _ related => ⟨related.scope, related.out, congrArg (· + 1) related.moment⟩

theorem follows_debug (engine engine' : Engine) (parts parts' : List (Except OperandFault String)) :
    Follows lenient R (debug engine parts) (debug engine' parts') := by
  intro run run' related
  obtain ⟨after, told, logged⟩ := debug_ends engine parts run
  obtain ⟨after', told', logged'⟩ := debug_ends engine' parts' run'
  rw [told, told']
  exact .ok (related.logged logged logged')

theorem Follows.blaming {x y : Render α} (h : Follows lenient R x y) (place : Place) :
    Follows lenient R (blaming place x) (blaming place y) := by
  intro run run' related
  have inside := h run run' related
  unfold Render.blaming
  generalize x run = left at inside ⊢
  generalize y run' = right at inside ⊢
  cases inside with
  | ok together => exact .ok together
  | error together => exact .error together
  | failed allowed => exact .failed allowed

theorem Follows.blamingOption {x y : Render α} (h : Follows lenient R x y)
    (place : Option Place) :
    Follows lenient R (Node.blamingOption place x) (Node.blamingOption place y) := by
  cases place with
  | none => exact h
  | some p => exact h.blaming p

end Render

/-! ## Section 2: Engines in step -/

/-- Do related scopes hold the same counters, and does what a rendering does
    to a scope keep the relation? -/
structure Scope.InStep (R : Scope → Scope → Prop) : Prop where
  counters : ∀ s t, R s t → s.counters = t.counters
  assign : ∀ s t name value, R s t → R (s.assign name value) (t.assign name value)
  count : ∀ s t note, R s t → R (s.putNote countersNote note) (t.putNote countersNote note)

/-- A scope is in step with itself. -/
theorem Scope.inStep_eq : Scope.InStep Eq where
  counters := fun _ _ => congrArg counters
  assign := fun _ _ name value => congrArg (assign · name value)
  count := fun _ _ note => congrArg (putNote · countersNote note)

/-- Do two frames lead from scopes of one relation to scopes of another one,
    and back? -/
structure Frame.Leads (R S : Scope → Scope → Prop) (f g : Frame) : Prop where
  enter : ∀ s t, R s t → S (.child f s) (.child g t)
  leave : ∀ s t, S s t → R s.leave t.leave

/-- Are two loops entered alike from related scopes?  Their headers are
    evaluated alike, the limits are the same, and their bodies begin in
    scopes of the relation `S`.  The names of their items may differ. -/
structure LoopHeader.Alike (lenient : Prop) (R S : Scope → Scope → Prop) (engine engine' : Engine)
    (h h' : LoopHeader) : Prop where
  walked : ∀ s t moment, R s t → Agrees lenient
    (h.walked (engine.filters.atMoment moment) s.names)
    (h'.walked (engine'.filters.atMoment moment) t.names)
  cols : ∀ s t moment, R s t → Agrees lenient
    (modifierCount (engine.filters.atMoment moment) s.names "cols" h.cols)
    (modifierCount (engine'.filters.atMoment moment) t.names "cols" h'.cols)
  limit : ∀ tag count, Agrees lenient (checkLimit engine tag count) (checkLimit engine' tag count)
  body : ∃ around, Frame.Leads R around .loop .loop ∧ ∀ v position,
    Frame.Leads around S (iterationFrame h.item v position) (iterationFrame h'.item v position)

/-- Do the engines do the same in related scopes?  The expressions in
    question are evaluated alike, the limits on loops are the same, and what
    a rendering does to a scope keeps the relation. -/
structure Engine.InStep (lenient : Prop) (R : Scope → Scope → Prop) (evaluated : Expr → Prop)
    (engine engine' : Engine) : Prop extends Scope.InStep R where
  eval : ∀ s t moment e, R s t → evaluated e →
    Agrees lenient (e.eval (engine.filters.atMoment moment) s.names)
      (e.eval (engine'.filters.atMoment moment) t.names)
  limit : ∀ tag count, Agrees lenient (checkLimit engine tag count) (checkLimit engine' tag count)
  enter : ∀ f s t, R s t → R (.child f s) (.child f t)
  leave : ∀ s t, R s t → R s.leave t.leave

section

variable {lenient : Prop} {R S : Scope → Scope → Prop} {evaluated : Expr → Prop}
  {engine engine' : Engine}

/-- A loop is entered alike by engines in step. -/
theorem Engine.InStep.alike (h : InStep lenient R evaluated engine engine') {header : LoopHeader}
    (inside : ∀ e ∈ header.expressions, evaluated e) :
    header.Alike lenient R R engine engine' header where
  walked := fun s t moment related =>
    LoopHeader.walked_agrees fun e he => h.eval s t moment e related (inside e he)
  cols := by
    have ofCols : ∀ e ∈ header.cols.toList, evaluated e := fun e he =>
      inside e (List.mem_cons_of_mem _ (List.mem_append_right _ (List.mem_append_right _ he)))
    exact fun s t moment related =>
      modifierCount_agrees (fun e he => h.eval s t moment e related (ofCols e he)) "cols"
  limit := h.limit
  body := ⟨R, ⟨h.enter .loop, h.leave⟩, fun _ _ => ⟨h.enter _, h.leave⟩⟩

namespace Render

variable {α : Type}

/-- Steps inside one more frame each, which may be different ones. -/
theorem Follows.inFrame {x y : Render α} (step : Follows lenient S x y) {f g : Frame}
    (leads : Frame.Leads R S f g) : Follows lenient R (inFrame f x) (inFrame g y) := by
  intro run run' related
  have inside := step { run with scope := .child f run.scope }
    { run' with scope := .child g run'.scope }
    ⟨leads.enter _ _ related.scope, related.out, related.moment⟩
  have outside {after after' : Run} (together : after.Related S after') :
      Run.Related R { after with scope := after.scope.leave }
        { after' with scope := after'.scope.leave } :=
    ⟨leads.leave _ _ together.scope, together.out, together.moment⟩
  unfold Render.inFrame
  generalize x _ = left at inside ⊢
  generalize y _ = right at inside ⊢
  cases inside with
  | ok together => exact .ok (outside together)
  | error together => exact .error (outside together)
  | failed allowed => exact .failed allowed

/-- Expressions that are evaluated alike give the same in both renderings;
    the debug logs may tell of them differently. -/
theorem follows_evaluate {value value' : Registry → Names → Except Fault α}
    (alike : ∀ s t moment, R s t → Agrees lenient
      (value (engine.filters.atMoment moment) s.names)
      (value' (engine'.filters.atMoment moment) t.names))
    (told told' : Registry → Names → List String) :
    Follows lenient R (evaluate engine value told) (evaluate engine' value' told') := by
  intro run run' related
  obtain ⟨after, logged, ended⟩ := evaluate_ends engine value told run
  obtain ⟨after', logged', ended'⟩ := evaluate_ends engine' value' told' run'
  -- at the same moment, what is computed carries the same sites
  rw [ended, ended', ← related.moment]
  exact follows_lift (alike _ _ run.moment related.scope) _ _ (related.logged logged logged')

theorem follows_eval (h : Engine.InStep lenient R evaluated engine engine') {e : Expr}
    (inside : evaluated e) : Follows lenient R (eval engine e) (eval engine' e) :=
  follows_evaluate (fun s t moment related => h.eval s t moment e related inside) _ _

/-! ## Section 3: Loops and cycles -/

theorem follows_forItems {body body' : Render Signal} (step : Follows lenient S body body')
    {item item' : String}
    (leads : ∀ v position,
      Frame.Leads R S (iterationFrame item v position) (iterationFrame item' v position))
    (length : Nat) (vs : List Value) (i : Nat) :
    Follows lenient R (forItems engine item length body i vs)
      (forItems engine' item' length body' i vs) := by
  induction vs generalizing i with
  | nil => exact follows_pure ()
  | cons v vs ih =>
    refine Follows.bind (step.inFrame (leads v _)) fun signal => ?_
    split
    · exact follows_debug engine engine' _ _
    · exact ih (i + 1)

theorem follows_openCell (position : LoopPosition) (cols : Int) :
    Follows lenient R (openCell position cols) (openCell position cols) := by
  unfold openCell
  split
  · split
    · refine Follows.bind (follows_write _) fun _ => ?_
      exact Follows.bind (follows_write _) fun _ => follows_write _
    · exact Follows.bind (follows_write _) fun _ => follows_write _
  · exact follows_write _

theorem follows_tableItems {body body' : Render Signal} (step : Follows lenient S body body')
    {item item' : String}
    (leads : ∀ v position,
      Frame.Leads R S (iterationFrame item v position) (iterationFrame item' v position))
    (length cols : Nat) (vs : List Value) (i : Nat) :
    Follows lenient R (tableItems item length cols body i vs)
      (tableItems item' length cols body' i vs) := by
  induction vs generalizing i with
  | nil => exact follows_pure ()
  | cons v vs ih =>
    refine Follows.bind (follows_openCell _ _) fun _ => ?_
    refine Follows.bind (step.inFrame (leads v _)) fun signal => ?_
    refine Follows.bind (follows_write _) fun _ => ?_
    split
    · exact follows_pure ()
    · exact ih (i + 1)

section

variable {header header' : LoopHeader} (h : header.Alike lenient R S engine engine' header')

include h

theorem follows_forValues :
    Follows lenient R (forValues engine header) (forValues engine' header') := by
  refine Follows.bind (follows_evaluate h.walked _ _) fun walked => ?_
  refine Follows.bind (follows_lift_self _) fun length => ?_
  refine Follows.bind (follows_debug engine engine' _ _) fun _ => ?_
  exact Follows.bind (follows_lift (h.limit "for" length)) fun _ => follows_lift_self _

theorem follows_tableEntry :
    Follows lenient R (tableEntry engine header) (tableEntry engine' header') := by
  refine Follows.bind (follows_evaluate h.walked _ _) fun walked => ?_
  refine Follows.bind (follows_lift_self _) fun count => ?_
  refine Follows.bind (follows_lift (h.limit "tablerow" count)) fun _ => ?_
  refine Follows.bind (follows_lift_self _) fun items => ?_
  refine Follows.bind (follows_evaluate h.cols _ _) fun given => ?_
  exact Follows.bind (follows_debug engine engine' _ _) fun _ => follows_pure _

/-- Loops that are entered alike run alike if their bodies do. -/
theorem follows_runFor {body body' alternative alternative' : Render Signal}
    (step : Follows lenient S body body') (other : Follows lenient R alternative alternative') :
    Follows lenient R (runFor engine header body (some alternative))
      (runFor engine' header' body' (some alternative')) := by
  obtain ⟨around, loop, iterations⟩ := h.body
  refine Follows.bind (follows_forValues h) fun vs => ?_
  cases vs with
  | nil => exact other
  | cons v vs =>
    refine Follows.bind ((follows_forItems step iterations _ _ _).inFrame loop) fun _ => ?_
    exact follows_pure _

/-- Tables that are entered alike run alike if their bodies do. -/
theorem follows_runTable {body body' : Render Signal} (step : Follows lenient S body body') :
    Follows lenient R (runTable engine header body) (runTable engine' header' body') := by
  obtain ⟨around, loop, iterations⟩ := h.body
  rw [runTable_eq, runTable_eq]
  refine Follows.bind (follows_tableEntry h) fun entered => ?_
  obtain ⟨items, cols⟩ := entered
  cases items with
  | nil => exact follows_pure _
  | cons v vs =>
    refine Follows.bind ((follows_tableItems step iterations _ _ _ _).inFrame loop) fun _ => ?_
    exact Follows.bind (follows_write _) fun _ => follows_pure _

end

theorem follows_runCycle (h : Scope.InStep R) (c : Cycle) :
    Follows lenient R (runCycle c) (runCycle c) := by
  intro run run' related
  -- with the counters in the state at hand, so that they can be compared
  have opened (run : Run) : runCycle c run = (do
      let counters ← lift run.scope.counters
      let count := (Native.lookup? counters c.key).getD (.int 0)
      let next ← lift (count.successor.mapError .operand)
      modify fun r =>
        { r with scope := r.scope.putNote countersNote (.dict (Native.store counters c.key next)) }
      lift ((c.at count).mapError .operand) : Render String) run := rfl
  rw [opened run, opened run', h.counters _ _ related.scope]
  refine Follows.bind (follows_lift_self _) (fun counters => ?_) run run' related
  refine Follows.bind (follows_lift_self _) fun next => ?_
  refine Follows.bind (follows_modify fun a b together => ?_) fun _ => follows_lift_self _
  exact ⟨h.count _ _ _ together.scope, together.out, together.moment⟩

end Render

/-! ## Section 4: The expressions in a template -/

namespace Node

mutual

/-- The expressions in a node, and in all nodes inside. -/
def expressions : Node → List Expr
  | .text _ => []
  | .output e _ => [e]
  | .assign _ e _ => [e]
  | .cycle _ _ => []
  | .signal _ _ => []
  | .loop h body alternative _ =>
    h.expressions ++ (allExpressions body ++ optionExpressions alternative)
  | .table h body _ => h.expressions ++ allExpressions body
  | .branch _ branches alternative _ =>
    branchExpressions branches ++ optionExpressions alternative
  | .choice subject clauses alternative _ =>
    subject :: (clauseExpressions clauses ++ optionExpressions alternative)

/-- The expressions in some nodes. -/
def allExpressions : List Node → List Expr
  | [] => []
  | n :: ns => expressions n ++ allExpressions ns

/-- The expressions in nodes that may be absent. -/
def optionExpressions : Option (List Node) → List Expr
  | none => []
  | some ns => allExpressions ns

/-- The conditions of branches, and the expressions in their bodies. -/
def branchExpressions : List (Expr × List Node) → List Expr
  | [] => []
  | (condition, body) :: rest => condition :: (allExpressions body ++ branchExpressions rest)

/-- The alternatives of clauses, and the expressions in their bodies. -/
def clauseExpressions : List (List Expr × List Node) → List Expr
  | [] => []
  | (alternatives, body) :: rest => alternatives ++ (allExpressions body ++ clauseExpressions rest)

end

end Node

/-- The expressions in a template. -/
def Template.expressions (t : Template) : List Expr :=
  Node.allExpressions t.nodes

/-! ## Section 5: Nodes -/

namespace Node

open Render

/-! ### From the parts of nodes -/

section

variable {n n' : Node} {ns ns' body body' : List Node} {alternative alternative' : Render Signal}

theorem follows_piece (piece : String) :
    Follows lenient R (do write piece; return Signal.none) (do write piece; return Signal.none) :=
  Follows.bind (follows_write piece) fun _ => follows_pure _

theorem follows_output {e e' : Expr}
    (value : Follows lenient R (eval engine e) (eval engine' e')) (place place' : Place) :
    Follows lenient R (render engine (.output e place)) (render engine' (.output e' place')) := by
  rw [render, render]
  refine Follows.bind value fun v => ?_
  exact Follows.bind (follows_lift_self _) fun text => follows_piece text

theorem follows_assign (h : Scope.InStep R) (name : String) {e e' : Expr}
    (value : Follows lenient R (eval engine e) (eval engine' e')) (place place' : Place) :
    Follows lenient R (render engine (.assign name e place))
      (render engine' (.assign name e' place')) := by
  rw [render, render]
  refine Follows.bind value fun v => ?_
  refine Follows.bind (follows_modify fun _ _ related => ?_) fun _ => follows_pure _
  exact ⟨h.assign _ _ name v.native related.scope, related.out, related.moment⟩

theorem follows_cycle (h : Scope.InStep R) (c : Cycle) (place : Place) :
    Follows lenient R (render engine (.cycle c place)) (render engine' (.cycle c place)) := by
  rw [render, render]
  exact Follows.bind (follows_runCycle h c) fun text => follows_piece text

theorem follows_cons (first : Follows lenient R (render engine n) (render engine' n'))
    (place : n'.place? = n.place?)
    (rest : Follows lenient R (renderAll engine ns) (renderAll engine' ns')) :
    Follows lenient R (renderAll engine (n :: ns)) (renderAll engine' (n' :: ns')) := by
  rw [renderAll, renderAll, place]
  refine Follows.bind follows_tick fun _ => ?_
  refine Follows.bind (first.blamingOption n.place?) fun signal => ?_
  split
  · exact rest
  · exact follows_pure _

theorem follows_branch {condition condition' : Expr} {rest rest' : List (Expr × List Node)}
    {negated : Bool}
    (value : Follows lenient R (eval engine condition) (eval engine' condition'))
    (here : Follows lenient R (renderAll engine body) (renderAll engine' body'))
    (later : Follows lenient R (renderBranches engine false alternative rest)
      (renderBranches engine' false alternative' rest')) :
    Follows lenient R (renderBranches engine negated alternative ((condition, body) :: rest))
      (renderBranches engine' negated alternative' ((condition', body') :: rest')) := by
  rw [renderBranches, renderBranches]
  refine Follows.bind value fun v => ?_
  refine Follows.bind (follows_lift_self _) fun truth => ?_
  split
  · exact here
  · exact later

theorem follows_clause {subject : Value} {alternatives alternatives' : List Expr}
    {rest rest' : List (List Expr × List Node)}
    (found : Follows lenient R (anyEqual engine subject alternatives)
      (anyEqual engine' subject alternatives'))
    (here : Follows lenient R (renderAll engine body) (renderAll engine' body'))
    (later : Follows lenient R (renderClauses engine subject alternative rest)
      (renderClauses engine' subject alternative' rest')) :
    Follows lenient R (renderClauses engine subject alternative ((alternatives, body) :: rest))
      (renderClauses engine' subject alternative' ((alternatives', body') :: rest')) := by
  rw [renderClauses, renderClauses]
  refine Follows.bind found fun equal => ?_
  split
  · exact here
  · exact later

theorem follows_anyEqual_cons {subject : Value} {e e' : Expr} {es es' : List Expr}
    (value : Follows lenient R (eval engine e) (eval engine' e'))
    (later : Follows lenient R (anyEqual engine subject es) (anyEqual engine' subject es')) :
    Follows lenient R (anyEqual engine subject (e :: es))
      (anyEqual engine' subject (e' :: es')) := by
  refine Follows.bind value fun v => ?_
  refine Follows.bind (follows_lift_self _) fun same => ?_
  split
  · exact follows_pure true
  · exact later

end

/-! ### By engines in step -/

theorem follows_anyEqual (h : Engine.InStep lenient R evaluated engine engine') (subject : Value)
    {es : List Expr} (inside : ∀ e ∈ es, evaluated e) :
    Follows lenient R (anyEqual engine subject es) (anyEqual engine' subject es) := by
  induction es with
  | nil => exact follows_pure false
  | cons e es ih =>
    obtain ⟨here, later⟩ := List.forall_mem_cons.1 inside
    exact follows_anyEqual_cons (follows_eval h here) (ih later)

mutual

/-- Engines in step render a node alike. -/
theorem render_follows (h : Engine.InStep lenient R evaluated engine engine') :
    (n : Node) → (∀ e ∈ n.expressions, evaluated e) →
    Follows lenient R (render engine n) (render engine' n)
  | .text s, _ => by
    rw [render, render]
    exact follows_piece s
  | .output e place, inside => by
    rw [expressions, List.forall_mem_singleton] at inside
    exact follows_output (follows_eval h inside) place place
  | .assign name e place, inside => by
    rw [expressions, List.forall_mem_singleton] at inside
    exact follows_assign h.toInStep name (follows_eval h inside) place place
  | .cycle c place, _ => follows_cycle h.toInStep c place
  | .signal s _, _ => by
    rw [render, render]
    exact follows_pure s
  | .loop header body alternative _, inside => by
    rw [expressions, List.forall_mem_append, List.forall_mem_append] at inside
    obtain ⟨hheader, hbody, halternative⟩ := inside
    rw [render, render]
    exact follows_runFor (h.alike hheader) (renderAll_follows h body hbody)
      (renderOption_follows h alternative halternative)
  | .table header body _, inside => by
    rw [expressions, List.forall_mem_append] at inside
    rw [render, render]
    exact follows_runTable (h.alike inside.1) (renderAll_follows h body inside.2)
  | .branch negated branches alternative _, inside => by
    rw [expressions, List.forall_mem_append] at inside
    rw [render, render]
    have other := renderOption_follows h alternative inside.2
    exact renderBranches_follows h branches inside.1 other negated
  | .choice subject clauses alternative _, inside => by
    rw [expressions, List.forall_mem_cons, List.forall_mem_append] at inside
    obtain ⟨hsubject, hclauses, halternative⟩ := inside
    rw [render, render]
    have other := renderOption_follows h alternative halternative
    refine Follows.bind (follows_eval h hsubject) fun v => ?_
    exact renderClauses_follows h clauses hclauses other v

/-- Engines in step render nodes alike. -/
theorem renderAll_follows (h : Engine.InStep lenient R evaluated engine engine') :
    (ns : List Node) → (∀ e ∈ allExpressions ns, evaluated e) →
    Follows lenient R (renderAll engine ns) (renderAll engine' ns)
  | [], _ => by
    rw [renderAll, renderAll]
    exact follows_pure _
  | n :: ns, inside => by
    rw [allExpressions, List.forall_mem_append] at inside
    exact follows_cons (render_follows h n inside.1) rfl (renderAll_follows h ns inside.2)

theorem renderOption_follows (h : Engine.InStep lenient R evaluated engine engine') :
    (alternative : Option (List Node)) →
    (∀ e ∈ optionExpressions alternative, evaluated e) →
    Follows lenient R (renderOption engine alternative) (renderOption engine' alternative)
  | none, _ => by
    rw [renderOption, renderOption]
    exact follows_pure _
  | some ns, inside => by
    rw [optionExpressions] at inside
    rw [renderOption, renderOption]
    exact renderAll_follows h ns inside

theorem renderBranches_follows (h : Engine.InStep lenient R evaluated engine engine') :
    (branches : List (Expr × List Node)) →
    (∀ e ∈ branchExpressions branches, evaluated e) → {alternative alternative' : Render Signal} →
    Follows lenient R alternative alternative' → (negated : Bool) →
    Follows lenient R (renderBranches engine negated alternative branches)
      (renderBranches engine' negated alternative' branches)
  | [], _, _, _, other, negated => by
    rw [renderBranches, renderBranches]
    exact other
  | (condition, body) :: rest, inside, _, _, other, negated => by
    rw [branchExpressions, List.forall_mem_cons, List.forall_mem_append] at inside
    obtain ⟨hcondition, hbody, hrest⟩ := inside
    exact follows_branch (follows_eval h hcondition) (renderAll_follows h body hbody)
      (renderBranches_follows h rest hrest other false)

theorem renderClauses_follows (h : Engine.InStep lenient R evaluated engine engine') :
    (clauses : List (List Expr × List Node)) →
    (∀ e ∈ clauseExpressions clauses, evaluated e) → {alternative alternative' : Render Signal} →
    Follows lenient R alternative alternative' → (subject : Value) →
    Follows lenient R (renderClauses engine subject alternative clauses)
      (renderClauses engine' subject alternative' clauses)
  | [], _, _, _, other, subject => by
    rw [renderClauses, renderClauses]
    exact other
  | (alternatives, body) :: rest, inside, _, _, other, subject => by
    rw [clauseExpressions, List.forall_mem_append, List.forall_mem_append] at inside
    obtain ⟨halternatives, hbody, hrest⟩ := inside
    exact follows_clause (follows_anyEqual h subject halternatives)
      (renderAll_follows h body hbody) (renderClauses_follows h rest hrest other subject)

end

end Node

/-! ## Section 6: Templates -/

/-- Templates whose nodes follow each other, rendered from related scopes, end
    with the same result and in related scopes, unless the first rendering
    may fail. -/
theorem Template.renderIn_alike {t t' : Template}
    (nodes : Render.Follows lenient R (Node.renderAll engine t.nodes)
      (Node.renderAll engine' t'.nodes))
    (together : engine.moment = engine'.moment) {s s' : Scope} (related : R s s') :
    ((t.renderIn engine s).result = (t'.renderIn engine' s').result ∧
        R (t.renderIn engine s).scope (t'.renderIn engine' s').scope) ∨
      (lenient ∧ ∃ failure, (t.renderIn engine s).result = .error failure) := by
  -- a signal at the end strays in both
  have whole : Render.Follows lenient R (t.render engine) (t'.render engine') := by
    refine Render.Follows.bind nodes fun signal => ?_
    split
    · exact Render.follows_pure ()
    · exact fun _ _ related => .error related
  have paired := whole ⟨s, #[], #[], engine.moment⟩ ⟨s', #[], #[], engine'.moment⟩
    ⟨related, rfl, together⟩
  unfold renderIn
  generalize t.render engine _ = left at paired ⊢
  generalize t'.render engine' _ = right at paired ⊢
  cases paired with
  | ok ended =>
    have output := congrArg (fun out : Array String => String.join out.toList) ended.out
    exact .inl ⟨congrArg Except.ok output, ended.scope⟩
  | error ended => exact .inl ⟨rfl, ended.scope⟩
  | failed allowed => exact .inr ⟨allowed, _, rfl⟩

/-- Engines in step that render a template from related scopes end with the
    same result and in related scopes, unless the first one may fail. -/
theorem Template.renderIn_follows (h : Engine.InStep lenient R evaluated engine engine')
    (together : engine.moment = engine'.moment) (t : Template)
    (inside : ∀ e ∈ t.expressions, evaluated e) {s s' : Scope} (related : R s s') :
    ((t.renderIn engine s).result = (t.renderIn engine' s').result ∧
        R (t.renderIn engine s).scope (t.renderIn engine' s').scope) ∨
      (lenient ∧ ∃ failure, (t.renderIn engine s).result = .error failure) :=
  renderIn_alike (Node.renderAll_follows h t.nodes inside) together related

end

end Stencil
