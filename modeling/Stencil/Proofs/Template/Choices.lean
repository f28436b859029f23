import Stencil.Proofs.Template.Context

/-! # Choices and negated branches

    A choice evaluates its subject once and keeps the value, while branches
    evaluate one condition after another.  All the same, a choice is
    nothing but branches in other words: those whose conditions compare
    the alternatives of a clause with the subject.  A negated branch is the
    plain one with its bodies exchanged.  Only the debug log can tell such
    nodes apart, since it tells of a filter each time it is applied. -/

namespace Stencil

/-! ## Section 1: Comparisons with a subject -/

namespace Expr

/-- The condition that an expression equals the subject, in a chain of
    such: `e₁ == s or e₂ == s or …`, which associates to the left as it does
    when it is written. -/
def isOneOf (subject : Expr) : List Expr → Expr
  | [] => .literal (.bool false)
  | e :: es =>
    es.foldl (fun condition e => .or condition (.compare .eq e subject)) (.compare .eq e subject)

/-- Does an expression have a value equal to this one?  They are evaluated
    in order, up to the first that does. -/
def equalsAny (filters : Registry) (names : Names) (v : Value) : List Expr → Except Fault Bool
  | [] => .ok false
  | e :: es => do
    let w ← e.eval filters names
    if ← w.equal v then .ok true else equalsAny filters names v es

section

variable {filters : Registry} {names : Names} {subject : Expr} {v : Value}
  (known : subject.eval filters names = .ok v)

include known

theorem eval_compare_subject (e : Expr) :
    (compare .eq e subject).eval filters names =
      (e.eval filters names >>= fun w => w.equal v).map .boolean := by
  rw [eval, known]
  cases e.eval filters names with
  | error fault => rfl
  | ok w =>
    show (w.equal v >>= fun same => Except.ok (Value.boolean same)) = (w.equal v).map .boolean
    cases w.equal v <;> rfl

/-- A condition with more comparisons behind it: they are evaluated only if
    it does not hold. -/
theorem eval_foldl_or (es : List Expr) {condition : Expr} {x : Except Fault Bool}
    (h : condition.eval filters names = x.map .boolean) :
    (es.foldl (fun condition e => or condition (compare .eq e subject)) condition).eval
        filters names =
      (x >>= fun found => if found then .ok true else equalsAny filters names v es).map
        .boolean := by
  induction es generalizing condition x with
  | nil =>
    rw [List.foldl_nil, h]
    rcases x with fault | found
    · rfl
    · cases found <;> rfl
  | cons e es ih =>
    -- the comparison with `e` becomes a part of the condition in front
    have longer : (or condition (compare .eq e subject)).eval filters names =
        (x >>= fun found => if found then .ok true
          else e.eval filters names >>= fun w => w.equal v).map .boolean := by
      rw [eval, h, eval_compare_subject known]
      rcases x with fault | found
      · rfl
      · cases found with
        | true => rfl
        | false =>
          show (_ >>= _) = Except.map _ (e.eval filters names >>= fun w => w.equal v)
          cases e.eval filters names >>= fun w => w.equal v <;> rfl
    rw [List.foldl_cons, ih longer]
    rcases x with fault | found
    · rfl
    · cases found with
      | true => rfl
      | false =>
        refine congrArg (Except.map Value.boolean) ?_
        exact bind_assoc (e.eval filters names) _ _

/-- The condition holds exactly when one of the values equals that of the
    subject, and fails like the first evaluation or comparison that fails. -/
theorem eval_isOneOf (es : List Expr) :
    (isOneOf subject es).eval filters names = (equalsAny filters names v es).map .boolean := by
  cases es with
  | nil =>
    rw [isOneOf, eval]
    rfl
  | cons e es =>
    rw [isOneOf, eval_foldl_or known es (eval_compare_subject known e)]
    exact congrArg (Except.map Value.boolean) (bind_assoc (e.eval filters names) _ _)

end

example (a b c s : Expr) : isOneOf s [a, b, c] =
    .or (.or (.compare .eq a s) (.compare .eq b s)) (.compare .eq c s) := rfl

end Expr

/-! ## Section 2: Steps that compute the same -/

namespace Render

variable {α β : Type} {lenient : Prop} {R : Scope → Scope → Prop} {engine engine' : Engine}

/-- Steps that just compute the same thing are followed alike. -/
theorem paired_bind_of_computes {x y : Render α} {f g : α → Render β} {run run' : Run}
    {a : Except Fault α} (first : Computes engine x run a) (second : Computes engine' y run' a)
    (related : run.Related R run')
    (k : ∀ v mid mid', run.Logged engine mid → mid.Related R mid' →
      Run.Paired lenient R (f v mid) (g v mid')) :
    Run.Paired lenient R ((x >>= f) run) ((y >>= g) run') := by
  obtain ⟨mid, logged, ended⟩ := first
  obtain ⟨mid', logged', ended'⟩ := second
  have together := related.logged logged logged'
  cases a with
  | error fault =>
    rw [bind_of_error ended, bind_of_error ended']
    exact .error together
  | ok v =>
    rw [bind_of_ok ended, bind_of_ok ended']
    exact k v mid mid' logged together

end Render

/-! ## Section 3: Clauses as branches -/

namespace Node

open Render

variable {engine : Engine} {subject : Expr} {v : Value} {run run' : Run}

/-- The alternatives of a clause are evaluated and compared in order. -/
theorem anyEqual_computes (v : Value) (es : List Expr) (run : Run) :
    Computes engine (anyEqual engine v es) run
      (Expr.equalsAny (engine.filters.atMoment run.moment) run.scope.names v es) := by
  induction es generalizing run with
  | nil => exact computes_lift (.ok false) run
  | cons e es ih =>
    refine (computes_evaluate _ _ run).bind fun w mid logged => ?_
    refine (computes_lift (w.equal v) mid).bind fun same after later => ?_
    cases same with
    | true => exact computes_lift (.ok true) after
    | false =>
      -- the state in front of the other alternatives has the same names
      have still := ih after
      rw [(logged.trans later).same] at still ⊢
      exact still

/-- The truth of a condition. -/
def truth (engine : Engine) (condition : Expr) : Render Bool := do
  let w ← eval engine condition
  lift w.truth

theorem follows_truth (condition : Expr) :
    Follows False Eq (truth engine condition) (truth engine condition) :=
  Follows.bind (follows_value condition) fun w => follows_lift_self w.truth

theorem renderBranches_cons (negated : Bool) (alternative : Render Signal) (condition : Expr)
    (body : List Node) (rest : List (Expr × List Node)) :
    renderBranches engine negated alternative ((condition, body) :: rest) = (do
      if (← truth engine condition) != negated then renderAll engine body
      else renderBranches engine false alternative rest) := by
  rw [renderBranches, truth]
  exact (bind_assoc _ _ _).symm

/-- The condition on the alternatives of a clause is decided like the clause
    itself. -/
theorem truth_isOneOf_computes
    (known : subject.eval (engine.filters.atMoment run.moment) run.scope.names = .ok v)
    (es : List Expr) :
    Computes engine (truth engine (subject.isOneOf es)) run
      (Expr.equalsAny (engine.filters.atMoment run.moment) run.scope.names v es) := by
  have condition : Computes engine (eval engine (subject.isOneOf es)) run
      ((subject.isOneOf es).eval (engine.filters.atMoment run.moment) run.scope.names) :=
    computes_evaluate _ _ run
  have decided := condition.bind fun w mid _ => computes_lift w.truth mid
  rw [Expr.eval_isOneOf known] at decided
  have same : (Except.map Value.boolean
      (Expr.equalsAny (engine.filters.atMoment run.moment) run.scope.names v es) >>= Value.truth) =
      Expr.equalsAny (engine.filters.atMoment run.moment) run.scope.names v es := by
    cases Expr.equalsAny (engine.filters.atMoment run.moment) run.scope.names v es <;> rfl
  rw [same] at decided
  exact decided

/-- The branches that clauses amount to, when they are about this subject. -/
def asBranches (subject : Expr) (clauses : List (List Expr × List Node)) :
    List (Expr × List Node) :=
  clauses.map fun (alternatives, body) => (subject.isOneOf alternatives, body)

theorem renderClauses_paired {alternative : Render Signal}
    (other : Follows False Eq alternative alternative) (clauses : List (List Expr × List Node))
    (known : subject.eval (engine.filters.atMoment run.moment) run.scope.names = .ok v)
    (related : run.Related Eq run') :
    Run.Paired False Eq (renderClauses engine v alternative clauses run)
      (renderBranches engine false alternative (asBranches subject clauses) run') := by
  induction clauses generalizing run run' with
  | nil =>
    rw [renderClauses, asBranches, List.map_nil, renderBranches]
    exact other run run' related
  | cons c clauses ih =>
    obtain ⟨alternatives, body⟩ := c
    have known' : subject.eval (engine.filters.atMoment run'.moment) run'.scope.names = .ok v := by
      rw [← related.scope, ← related.moment]
      exact known
    have found : Computes engine (anyEqual engine v alternatives) run _ :=
      anyEqual_computes v alternatives run
    have decided := truth_isOneOf_computes known' alternatives
    rw [← related.scope, ← related.moment] at decided
    rw [renderClauses, asBranches, List.map_cons, renderBranches_cons]
    -- both decide from the same names at the same moment, so they enter the same body
    refine paired_bind_of_computes found decided related fun holds mid mid' logged together => ?_
    cases holds with
    | true => exact follows_self body mid mid' together
    | false =>
      refine ih ?_ together
      rw [logged.same]
      exact known

/-- A choice whose subject has a value renders as the branches that it
    amounts to. -/
theorem render_choice_paired (clauses : List (List Expr × List Node))
    (alternative : Option (List Node)) (place place' : Place)
    (known : subject.eval (engine.filters.atMoment run.moment) run.scope.names = .ok v) :
    Run.Paired False Eq (render engine (.choice subject clauses alternative place) run)
      (render engine (.branch false (asBranches subject clauses) alternative place') run) := by
  obtain ⟨mid, logged, ended⟩ := evaluate_ends engine
    (fun filters names => subject.eval filters names)
    (fun filters names => subject.passedThrough filters names) run
  rw [known] at ended
  have entered : eval engine subject run = .ok v mid := ended
  rw [render, render, bind_of_ok entered]
  refine renderClauses_paired (follows_alternative alternative) clauses ?_ ?_
  · rw [logged.same]
    exact known
  · rw [logged.same]
    exact ⟨rfl, rfl, rfl⟩

/-! ## Section 4: Negated branches -/

/-- A negated branch renders as the plain one with its bodies exchanged. -/
theorem render_negated_follows (condition : Expr) (body other : List Node)
    (place place' : Place) :
    Follows False Eq (render engine (.branch true [(condition, body)] (some other) place))
      (render engine (.branch false [(condition, other)] (some body) place')) := by
  have last (alternative : Render Signal) :
      renderBranches engine false alternative [] = alternative := by rw [renderBranches]
  rw [render, render, renderOption_some, renderOption_some, renderBranches_cons,
    renderBranches_cons, last, last]
  refine Follows.bind (follows_truth condition) fun holds => ?_
  cases holds with
  | true => exact follows_self other
  | false => exact follows_self body

/-- Choices and negated branches are plain branches in other words.  In
    every state in which the subject has a value, a choice ends like the
    branches whose conditions compare its alternatives with the subject;
    and in every state, a negated branch ends like the plain one with its
    bodies exchanged.  They end with the same signal or failure, the same
    output and the same scope. -/
theorem choice_and_negated_as_branches (engine : Engine) :
    (∀ (subject : Expr) (clauses : List (List Expr × List Node))
        (alternative : Option (List Node)) (place place' : Place) (run : Run) (v : Value),
      subject.eval (engine.filters.atMoment run.moment) run.scope.names = .ok v →
      Run.Paired False Eq (render engine (.choice subject clauses alternative place) run)
        (render engine (.branch false (asBranches subject clauses) alternative place') run)) ∧
    ∀ (condition : Expr) (body other : List Node) (place place' : Place),
      Follows False Eq (render engine (.branch true [(condition, body)] (some other) place))
        (render engine (.branch false [(condition, other)] (some body) place')) := by
  constructor
  · intro subject clauses alternative place place' run v known
    exact render_choice_paired clauses alternative place place' known
  · intro condition body other place place'
    exact render_negated_follows condition body other place place'

/-- A clause for one number, and one for two others. -/
def numberClauses : List (List Expr × List Node) :=
  [([.literal (.int 1)], [.text "one"]), ([.literal (.int 2), .literal (.int 3)], [.text "more"])]

/-- A state with a name for a number of the second clause. -/
def numberRun : Run :=
  ⟨.ofBindings [("n", .int 3)], #[], #[], 0⟩

theorem choice_as_branches_numbers :
    (Expr.var "n").eval ((Engine.standard .standard).filters.atMoment 0) numberRun.scope.names =
      .ok (.number (.int 3)) ∧
    Run.Paired False Eq
      (render (Engine.standard .standard)
        (.choice (.var "n") numberClauses none ⟨.int 1, .int 1, ""⟩) numberRun)
      (render (Engine.standard .standard)
        (.branch false (asBranches (.var "n") numberClauses) none ⟨.int 1, .int 1, ""⟩)
        numberRun) := by
  have known : (Expr.var "n").eval ((Engine.standard .standard).filters.atMoment 0)
      numberRun.scope.names = .ok (.number (.int 3)) := rfl
  refine ⟨known, ?_⟩
  exact (choice_and_negated_as_branches (Engine.standard .standard)).1 (.var "n") numberClauses
    none ⟨.int 1, .int 1, ""⟩ ⟨.int 1, .int 1, ""⟩ numberRun (.number (.int 3)) known

end Node

end Stencil
