import Stencil.Proofs.Statement.Parse
import Stencil.Statement.Eval

/-! # What expressions mean

    The meaning of an expression by rules: which operands it comes to, in
    which order, and what it makes of their outcomes.  An operand that fails
    ends the matter, and those behind it are not come to.  Evaluation has
    exactly the outcome that the rules allow, and it has it however the
    expression is written. -/

namespace Stencil

namespace Expr

/-! ## Section 1: Rules -/

mutual

/-- The outcome of an expression.  A rule with an operand that fails stands
    in front of the rule for operands that all have values. -/
inductive Means (names : Names) : Registry → Expr → Except Fault Value → Prop
  | literal {r : Registry} {l : Literal} : Means names r (.literal l) (.ok l.value)
  | var {r : Registry} {name : String} : Means names r (.var name) (names name >>= Native.wrap)
  | property {r : Registry} {object : Expr} {name : String} {x : Except Fault Value} :
      Means names r object x → Means names r (.property object name) (x >>= (·.property name))
  | indexObject {r : Registry} {object key : Expr} {f : Fault} :
      Means names r object (.error f) → Means names r (.index object key) (.error f)
  | index {r : Registry} {object key : Expr} {v : Value} {x : Except Fault Value} :
      Means names r object (.ok v) → Means names r key x →
      Means names r (.index object key) (x >>= v.index)
  | rangeLow {r : Registry} {low high : Expr} {x : Except Fault Value} {f : Fault} :
      Means names r low x → (x >>= Value.toInt) = .error f →
      Means names r (.range low high) (.error f)
  | range {r : Registry} {low high : Expr} {x y : Except Fault Value} {a : Int} :
      Means names r low x → (x >>= Value.toInt) = .ok a → Means names r high y →
      Means names r (.range low high) ((y >>= Value.toInt).map fun b => .range (.between a b))
  | compareLeft {r : Registry} {relation : Relation} {left right : Expr} {f : Fault} :
      Means names r left (.error f) → Means names r (.compare relation left right) (.error f)
  | compare {r : Registry} {relation : Relation} {left right : Expr} {a : Value}
      {y : Except Fault Value} :
      Means names r left (.ok a) → Means names r right y →
      Means names r (.compare relation left right)
        (y >>= fun b => (relation.holds a b).map .boolean)
  | andLeft {r : Registry} {left right : Expr} {x : Except Fault Value} {f : Fault} :
      Means names r left x → (x >>= Value.truth) = .error f →
      Means names r (.and left right) (.error f)
  | andFalse {r : Registry} {left right : Expr} {x : Except Fault Value} :
      Means names r left x → (x >>= Value.truth) = .ok false →
      Means names r (.and left right) (.ok (.boolean false))
  | and {r : Registry} {left right : Expr} {x y : Except Fault Value} :
      Means names r left x → (x >>= Value.truth) = .ok true → Means names r right y →
      Means names r (.and left right) ((y >>= Value.truth).map .boolean)
  | orLeft {r : Registry} {left right : Expr} {x : Except Fault Value} {f : Fault} :
      Means names r left x → (x >>= Value.truth) = .error f →
      Means names r (.or left right) (.error f)
  | orTrue {r : Registry} {left right : Expr} {x : Except Fault Value} :
      Means names r left x → (x >>= Value.truth) = .ok true →
      Means names r (.or left right) (.ok (.boolean true))
  | or {r : Registry} {left right : Expr} {x y : Except Fault Value} :
      Means names r left x → (x >>= Value.truth) = .ok false → Means names r right y →
      Means names r (.or left right) ((y >>= Value.truth).map .boolean)
  | filterReceiver {r : Registry} {receiver : Expr} {name : String} {args : List Expr}
      {f : Fault} :
      Means names r.first receiver (.error f) →
      Means names r (.filter receiver name args) (.error f)
  | filter {r : Registry} {receiver : Expr} {name : String} {args : List Expr} {v : Value}
      {xs : Except Fault (List Value)} :
      Means names r.first receiver (.ok v) → MeansAll names r.others args xs →
      Means names r (.filter receiver name args) (xs >>= r.invoke name v)

/-- The outcome of expressions one after another. -/
inductive MeansAll (names : Names) : Registry → List Expr → Except Fault (List Value) → Prop
  | nil {r : Registry} : MeansAll names r [] (.ok [])
  | head {r : Registry} {e : Expr} {es : List Expr} {f : Fault} :
      Means names r.first e (.error f) → MeansAll names r (e :: es) (.error f)
  | cons {r : Registry} {e : Expr} {es : List Expr} {v : Value}
      {xs : Except Fault (List Value)} :
      Means names r.first e (.ok v) → MeansAll names r.others es xs →
      MeansAll names r (e :: es) (xs.map (v :: ·))

end

/-! ## Section 2: Evaluation follows the rules -/

theorem bind_bind_pure {α β γ : Type} (x : Except Fault α) (f : α → Except Fault β) (g : β → γ) :
    (x >>= fun a => f a >>= fun b => pure (g b)) = (x >>= f).map g := by
  cases x with
  | error fault => rfl
  | ok a =>
    show (f a >>= _) = (f a).map g
    cases f a <;> rfl

section

variable (filters : Registry) (names : Names)

/-- A bound counts as an integer before anything else is done. -/
theorem eval_range (low high : Expr) :
    (Expr.range low high).eval filters names =
      ((low.eval filters names >>= Value.toInt) >>= fun a =>
        (high.eval filters names >>= Value.toInt).map fun b => .range (.between a b)) := by
  rw [eval, bind_assoc]
  exact bind_congr fun v => bind_congr fun a => bind_bind_pure _ _ _

theorem eval_compare (relation : Relation) (left right : Expr) :
    (Expr.compare relation left right).eval filters names =
      (left.eval filters names >>= fun a =>
        right.eval filters names >>= fun b => (relation.holds a b).map .boolean) := by
  rw [eval]
  refine bind_congr fun a => bind_congr fun b => ?_
  cases relation.holds a b <;> rfl

/-- The truth of the left operand tells whether the right one is come to. -/
theorem eval_and (left right : Expr) :
    (Expr.and left right).eval filters names =
      ((left.eval filters names >>= Value.truth) >>= fun t =>
        if t then (right.eval filters names >>= Value.truth).map .boolean
        else .ok (.boolean false)) := by
  rw [eval, bind_assoc]
  refine bind_congr fun v => bind_congr fun t => ?_
  cases t with
  | false => rfl
  | true => exact bind_bind_pure _ _ _

theorem eval_or (left right : Expr) :
    (Expr.or left right).eval filters names =
      ((left.eval filters names >>= Value.truth) >>= fun t =>
        if t then .ok (.boolean true)
        else (right.eval filters names >>= Value.truth).map .boolean) := by
  rw [eval, bind_assoc]
  refine bind_congr fun v => bind_congr fun t => ?_
  cases t with
  | false => exact bind_bind_pure _ _ _
  | true => rfl

end

variable {names : Names}

mutual

/-- An outcome by the rules is that of evaluation. -/
theorem Means.eval_eq : ∀ {e : Expr} {r : Registry} {x : Except Fault Value},
    Means names r e x → e.eval r names = x
  | .literal l, r, x, h => by
    cases h
    rw [eval]
  | .var name, r, x, h => by
    cases h
    rw [eval]
  | .property object name, r, x, h => by
    cases h with
    | property inner => rw [eval, inner.eval_eq]
  | .index object key, r, x, h => by
    cases h with
    | indexObject failed =>
      rw [eval, failed.eval_eq]
      rfl
    | index first second =>
      rw [eval, first.eval_eq, second.eval_eq]
      rfl
  | .range low high, r, x, h => by
    cases h with
    | rangeLow first failed =>
      rw [eval_range, first.eval_eq, failed]
      rfl
    | range first bound second =>
      rw [eval_range, first.eval_eq, bound, second.eval_eq]
      rfl
  | .compare relation left right, r, x, h => by
    cases h with
    | compareLeft failed =>
      rw [eval_compare, failed.eval_eq]
      rfl
    | compare first second =>
      rw [eval_compare, first.eval_eq, second.eval_eq]
      rfl
  | .and left right, r, x, h => by
    cases h with
    | andLeft first failed =>
      rw [eval_and, first.eval_eq, failed]
      rfl
    | andFalse first decided =>
      rw [eval_and, first.eval_eq, decided]
      rfl
    | and first undecided second =>
      rw [eval_and, first.eval_eq, undecided, second.eval_eq]
      rfl
  | .or left right, r, x, h => by
    cases h with
    | orLeft first failed =>
      rw [eval_or, first.eval_eq, failed]
      rfl
    | orTrue first decided =>
      rw [eval_or, first.eval_eq, decided]
      rfl
    | or first undecided second =>
      rw [eval_or, first.eval_eq, undecided, second.eval_eq]
      rfl
  | .filter receiver name args, r, x, h => by
    cases h with
    | filterReceiver failed =>
      rw [eval, failed.eval_eq]
      rfl
    | filter first others =>
      rw [eval, first.eval_eq, others.evalAll_eq]
      rfl

theorem MeansAll.evalAll_eq : ∀ {es : List Expr} {r : Registry} {xs : Except Fault (List Value)},
    MeansAll names r es xs → evalAll r names es = xs
  | [], r, xs, h => by
    cases h
    rw [evalAll]
  | e :: es, r, xs, h => by
    cases h with
    | head failed =>
      rw [evalAll, failed.eval_eq]
      rfl
    | cons first others =>
      rw [evalAll, first.eval_eq, others.evalAll_eq]
      rfl

end

mutual

/-- The outcome of evaluation is one by the rules. -/
theorem means_eval : ∀ (e : Expr) (r : Registry), Means names r e (e.eval r names)
  -- the outcome of the first operand decides which of the rules applies
  | .literal l, r => by
    rw [eval]
    exact .literal
  | .var name, r => by
    rw [eval]
    exact .var
  | .property object name, r => by
    rw [eval]
    exact .property (means_eval object r)
  | .index object key, r => by
    have first := means_eval object r
    rw [eval]
    cases outcome : object.eval r names with
    | error f => exact .indexObject (outcome ▸ first)
    | ok v => exact .index (outcome ▸ first) (means_eval key r)
  | .range low high, r => by
    have first := means_eval low r
    rw [eval_range]
    cases outcome : low.eval r names >>= Value.toInt with
    | error f => exact .rangeLow first outcome
    | ok a => exact .range first outcome (means_eval high r)
  | .compare relation left right, r => by
    have first := means_eval left r
    rw [eval_compare]
    cases outcome : left.eval r names with
    | error f => exact .compareLeft (outcome ▸ first)
    | ok a => exact .compare (outcome ▸ first) (means_eval right r)
  | .and left right, r => by
    have first := means_eval left r
    rw [eval_and]
    rcases outcome : left.eval r names >>= Value.truth with f | _ | _
    · exact .andLeft first outcome
    · exact .andFalse first outcome
    · exact .and first outcome (means_eval right r)
  | .or left right, r => by
    have first := means_eval left r
    rw [eval_or]
    rcases outcome : left.eval r names >>= Value.truth with f | _ | _
    · exact .orLeft first outcome
    · exact .or first outcome (means_eval right r)
    · exact .orTrue first outcome
  | .filter receiver name args, r => by
    have first := means_eval receiver r.first
    rw [eval]
    cases outcome : receiver.eval r.first names with
    | error f => exact .filterReceiver (outcome ▸ first)
    | ok v => exact .filter (outcome ▸ first) (meansAll_evalAll args r.others)

theorem meansAll_evalAll : ∀ (es : List Expr) (r : Registry),
    MeansAll names r es (evalAll r names es)
  | [], r => by
    rw [evalAll]
    exact .nil
  | e :: es, r => by
    have first := means_eval e r.first
    rw [evalAll]
    cases outcome : e.eval r.first names with
    | error f => exact .head (outcome ▸ first)
    | ok v => exact .cons (outcome ▸ first) (meansAll_evalAll es r.others)

end

/-- Evaluation has exactly the outcome that the rules allow. -/
theorem means_iff {e : Expr} {r : Registry} {x : Except Fault Value} :
    Means names r e x ↔ e.eval r names = x :=
  ⟨Means.eval_eq, fun same => same ▸ means_eval e r⟩

/-! ## Section 3: What is written is meant -/

/-- An expression that can be written is written in some way.  Whichever
    way that is, the expression is what is parsed, and evaluating what is
    parsed has exactly the outcome that the expression means. -/
theorem written_means {e : Expr} (printable : e.Printable) :
    (∃ source, e.IsWritten source) ∧
    ∀ source, e.IsWritten source → ∃ parsed, parseExpression source = .ok parsed ∧
      ∀ (filters : Registry) (scope : Scope) (x : Except Fault Value),
        parsed.eval filters scope.names = x ↔ Means scope.names filters e x := by
  refine ⟨printable.exists_written, fun source written => ?_⟩
  exact ⟨e, parseExpression_written written, fun filters scope x => means_iff.symm⟩

/-- A filter applied to what another one gives, with a range for its
    argument, and a disjunction in parentheses. -/
def sample : Expr :=
  .filter (.filter (.or (.var "a") (.literal .nil)) "f" []) "g"
    [.range (.literal (.int 1)) (.var "n"), .property (.var "b") "c"]

theorem sample_means :
    sample.Printable ∧ (∃ source, sample.IsWritten source) ∧
    ∀ source, sample.IsWritten source → ∃ parsed, parseExpression source = .ok parsed ∧
      ∀ (filters : Registry) (scope : Scope) (x : Except Fault Value),
        parsed.eval filters scope.names = x ↔ Means scope.names filters sample x := by
  have printable : sample.Printable := by
    have letter (c : Char) (start : Text.isNameStart c = true) : IsName [c] :=
      isName_ofList start rfl
    have lexemes : sample.lexemes =
        [.operator .lpar, .identifier "a", .operator .or, .literal .nil, .operator .rpar,
          .operator .pipe, .identifier "f", .operator .pipe, .keyword "g", .operator .lpar,
          .literal (.int 1), .operator .dotdot, .identifier "n", .operator .rpar,
          .operator .comma, .identifier "b", .property "c"] := rfl
    have one : (Lexeme.literal (.int 1)).Legible := by
      show 1 < Numeral.writeLimit
      have positive : Numeral.maxDigits ≠ 0 := by decide
      unfold Numeral.writeLimit
      -- the power must not be computed
      generalize Numeral.maxDigits = most at positive ⊢
      exact Nat.one_lt_pow positive (by decide)
    unfold Printable
    rw [lexemes]
    simp only [List.forall_mem_cons]
    refine ⟨nofun, ⟨letter 'a' rfl, rfl⟩, nofun, trivial, nofun, nofun, ⟨letter 'f' rfl, rfl⟩, nofun,
      letter 'g' rfl, nofun, one, nofun, ⟨letter 'n' rfl, rfl⟩, nofun, nofun, ⟨letter 'b' rfl, rfl⟩,
      letter 'c' rfl, nofun⟩
  exact ⟨printable, written_means printable⟩

end Expr

end Stencil
