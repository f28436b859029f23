import Stencil.Proofs.Grammar.Soundness

/-! # Runs come to their end

    A parse never gives up for lack of fuel.  Each token ahead counts for
    sixteen, each symbol on the stack for its weight; every move lowers the
    sum.  The symbols that may stand for nothing have a weight below zero,
    but nothing is read on top of them, so the sum stays above minus three. -/

namespace Stencil.Grammar

/-! ## Section 1: Weights -/

/-- The weight of a nonterminal: less than the symbols of any of its
    productions together. -/
def Nonterminal.weight : Nonterminal → Int
  | .root => 8
  | .start => 9
  | .cycle => 11
  | .cycleTail => -2
  | .cycleRest => -1
  | .cycleMore => 28
  | .cycleText => 14
  | .loop => 42
  | .modifierMore => 13
  | .modifier => 14
  | .alternatives => -1
  | .alternativeMore => 9
  | .cond => 10
  | .conj => 11
  | .rel => 12
  | .filtered => 13
  | .arguments => 13
  | .argumentMore => 28
  | .primary => 14

/-- The weight of a symbol: a token that has been read weighs less than one
    that is ahead. -/
def Symbol.weight : Symbol → Int
  | .terminal _ => 15
  | .nonterminal n => n.weight

/-- The weight of symbols together. -/
def weightOf : List Symbol → Int
  | [] => 0
  | s :: rest => s.weight + weightOf rest

/-- The weight of a stack. -/
def stackWeight (stack : List Entry) : Int :=
  weightOf (stack.map Entry.symbol)

/-- What every move lowers. -/
def potential (stack : List Entry) (tokens : List Token) : Int :=
  stackWeight stack + 16 * tokens.length

theorem weightOf_append (ss rs : List Symbol) :
    weightOf (ss ++ rs) = weightOf ss + weightOf rs := by
  induction ss with
  | nil => simp [weightOf]
  | cons s ss ih =>
    rw [List.cons_append, weightOf, weightOf, ih]
    omega

theorem weightOf_reverse (ss : List Symbol) : weightOf ss.reverse = weightOf ss := by
  induction ss with
  | nil => rfl
  | cons s ss ih =>
    rw [List.reverse_cons, weightOf_append, weightOf, weightOf, weightOf, ih]
    omega

theorem weight_rhs (p : Production) : p.lhs.weight + 1 ≤ weightOf p.rhs := by
  have all : ∀ p ∈ productions, p.lhs.weight + 1 ≤ weightOf p.rhs := by decide
  exact all p (mem_productions p)

theorem weight_of_not_isLast {s : Symbol} (h : ¬ s.isLast) : 0 ≤ s.weight := by
  cases s with
  | terminal t => simp [Symbol.weight]
  | nonterminal n => cases n <;> revert h <;> decide

theorem neg_two_le_weight (s : Symbol) : -2 ≤ s.weight := by
  cases s with
  | terminal t => simp [Symbol.weight]
  | nonterminal n => cases n <;> decide

/-! ## Section 2: Every move lowers the potential -/

theorem symbols_of_partsOf {ss : List Symbol} {entries : List Entry} {parts : Parts ss}
    (h : partsOf ss entries = some parts) : entries.map Entry.symbol = ss := by
  induction ss generalizing entries with
  | nil =>
    cases entries with
    | nil => rfl
    | cons e entries => cases h
  | cons s ss ih =>
    cases entries with
    | nil => cases h
    | cons e entries =>
      rw [partsOf] at h
      split at h
      next same =>
        obtain ⟨others, hothers, -⟩ := Option.map_eq_some_iff.1 h
        rw [List.map_cons, same, ih hothers]
      next => cases h

theorem stackWeight_of_partsOf {ss : List Symbol} {entries : List Entry} {parts : Parts ss}
    (h : partsOf ss entries.reverse = some parts) : stackWeight entries = weightOf ss := by
  have symbols := symbols_of_partsOf h
  rw [List.map_reverse] at symbols
  rw [← symbols, weightOf_reverse, stackWeight]

theorem Step.potential {stack after : List Entry} {tokens rest : List Token}
    (step : Step stack tokens after rest) :
    potential after rest + 1 ≤ potential stack tokens := by
  -- a shift trades a token for a symbol that weighs less, a reduction symbols for a lighter one
  cases step with
  | shift edge =>
    simp only [Grammar.potential, stackWeight, weightOf, List.map_cons, Symbol.weight,
      List.length_cons]
    omega
  | @reduce entries stack _ p parts part q hparts =>
    have above := stackWeight_of_partsOf hparts
    have lower := weight_rhs p
    simp only [Grammar.potential, stackWeight, List.map_append, weightOf_append] at above ⊢
    rw [above]
    simp only [weightOf, List.map_cons, Symbol.weight] at lower ⊢
    omega

/-! ## Section 3: The potential is bounded below -/

/-- Where something can be read, nothing on the stack weighs less than
    zero. -/
theorem Grown.stackWeight_nonneg {stack : List Entry} {ts : List Token} {s : Symbol} {q : Nat}
    (h : Grown stack ts) (edge : (stateAt (topState stack)).target? s = some q) :
    0 ≤ stackWeight stack := by
  induction h generalizing s q with
  | nil => decide
  | @push stack ts r part state below t value inner ih =>
    -- the symbol that weighs less than zero ends the input, and nothing is read behind it
    have more : ¬ r.isLast := by
      intro last
      have none : (stateAt state).target? s = none := target?_of_isLast inner last s
      rw [show topState (⟨state, r, part⟩ :: stack) = state from rfl, none] at edge
      cases edge
    have rest := ih inner
    have top := weight_of_not_isLast more
    simp only [stackWeight, weightOf, List.map_cons] at rest ⊢
    omega

theorem Grown.neg_two_le_stackWeight {stack : List Entry} {ts : List Token} (h : Grown stack ts) :
    -2 ≤ stackWeight stack := by
  cases h with
  | nil => decide
  | @push stack ts r part state below t value edge =>
    have rest := below.stackWeight_nonneg edge
    have top := neg_two_le_weight r
    simp only [stackWeight, weightOf, List.map_cons] at rest ⊢
    omega

/-! ## Section 4: Fuel -/

/-- With fuel above the potential, a run ends by a move that ends it. -/
theorem Grown.exists_halt {stack : List Entry} {ts tokens : List Token} {fuel : Nat}
    (h : Grown stack ts) (enough : potential stack tokens + 2 < fuel) :
    ∃ after rest, Reaches stack tokens after rest ∧
      move after rest = .halt (run fuel stack tokens) := by
  induction fuel generalizing stack ts tokens with
  | zero =>
    -- the potential is never below minus two, so there is some fuel
    have bound := h.neg_two_le_stackWeight
    simp only [potential] at enough
    omega
  | succ fuel ih =>
    cases moved : move stack tokens with
    | halt result => exact ⟨stack, tokens, .refl, by rw [moved, run, moved, Move.andThen]⟩
    | on mid ahead =>
      have step := step_of_move moved
      have lower := step.potential
      obtain ⟨read, -, grown⟩ := h.step step
      have enough : potential mid ahead + 2 < fuel := by omega
      obtain ⟨after, rest, reached, halted⟩ := ih grown enough
      exact ⟨after, rest, .step moved reached, by rw [halted, run, moved, Move.andThen]⟩

/-- Fuel above the potential makes no difference. -/
theorem Grown.run_add {stack : List Entry} {ts tokens : List Token} {fuel : Nat}
    (h : Grown stack ts) (enough : potential stack tokens + 2 < fuel) (more : Nat) :
    run (fuel + more) stack tokens = run fuel stack tokens := by
  induction fuel generalizing stack ts tokens with
  | zero =>
    have bound := h.neg_two_le_stackWeight
    simp only [potential] at enough
    omega
  | succ fuel ih =>
    -- both runs make the same move, which lowers the potential
    rw [Nat.add_right_comm, run, run]
    cases moved : move stack tokens with
    | halt result => rfl
    | on mid ahead =>
      have step := step_of_move moved
      have lower := step.potential
      obtain ⟨read, -, grown⟩ := h.step step
      exact ih grown (by omega)

theorem potential_nil_lt (tokens : List Token) :
    potential [] tokens + 2 < (stepBound tokens.length : Nat) := by
  simp only [potential, stackWeight, weightOf, stepBound, List.map_nil]
  omega

/-- A parse ends by a move that ends it. -/
theorem parseTokens_reaches (tokens : List Token) :
    ∃ after rest, Reaches [] tokens after rest ∧ move after rest = .halt (parseTokens tokens) :=
  Grown.nil.exists_halt (potential_nil_lt tokens)

/-- A parse is a run with any fuel that is large enough. -/
theorem run_stepBound_add (tokens : List Token) (more : Nat) :
    run (stepBound tokens.length + more) [] tokens = parseTokens tokens :=
  Grown.nil.run_add (potential_nil_lt tokens) more

theorem Reaches.exists_fuel {stack after : List Entry} {tokens rest : List Token}
    {result : Except Malformed Statement} (h : Reaches stack tokens after rest)
    (halted : move after rest = .halt result) :
    ∃ fuel, ∀ more, run (fuel + more) stack tokens = result := by
  induction h with
  | refl =>
    refine ⟨1, fun more => ?_⟩
    rw [Nat.add_comm, run, halted, Move.andThen]
  | step first _ ih =>
    obtain ⟨fuel, ran⟩ := ih halted
    refine ⟨fuel + 1, fun more => ?_⟩
    rw [Nat.add_right_comm, run, first, Move.andThen, ran]

/-- A run that reaches an end has its result. -/
theorem parseTokens_of_reaches {tokens rest : List Token} {after : List Entry}
    {result : Except Malformed Statement} (run : Reaches [] tokens after rest)
    (halted : move after rest = .halt result) : parseTokens tokens = result := by
  obtain ⟨fuel, ran⟩ := run.exists_fuel halted
  rw [← run_stepBound_add tokens fuel, Nat.add_comm, ran]

end Stencil.Grammar
