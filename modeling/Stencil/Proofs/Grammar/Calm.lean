import Stencil.Proofs.Grammar.Completeness

/-! # Trees without contest

    Outside of the alternatives of a case, no comma follows an expression:
    commas separate the texts of a cycle and the arguments of a filter, and
    neither are expressions with filters of their own.  So the automaton
    never reads on where such a tree ends a filter's arguments. -/

namespace Stencil.Grammar

/-! ## Section 1: What a comma may follow -/

/-- Can the symbol stand in a statement without alternatives? -/
def Symbol.isOrdinary : Symbol → Bool
  | .terminal _ => true
  | .nonterminal n =>
    n ≠ .root && n ≠ .start && n ≠ .alternatives && n ≠ .alternativeMore

/-- The nonterminals that end with an expression, which no comma may
    follow. -/
def Symbol.isSettled : Symbol → Bool
  | .terminal _ => false
  | .nonterminal n =>
    n = .loop || n = .cond || n = .conj || n = .rel || n = .filtered || n = .arguments

/-- Does a comma never follow a settled symbol among these, where `last`
    says whether none follows all of them? -/
def shelters (last : Bool) : List Symbol → Bool
  | [] => true
  | s :: rest =>
    s.isOrdinary &&
      (!s.isSettled || (!(firsts.ofSymbols rest).first.mem (.operator .comma) &&
        (!(firsts.ofSymbols rest).nullable || last))) &&
      shelters last rest

/-- What is ordinary is made of what is ordinary, and a comma follows
    nothing settled in it. -/
theorem shelters_rhs {p : Production} (h : (Symbol.nonterminal p.lhs).isOrdinary) :
    shelters (Symbol.nonterminal p.lhs).isSettled p.rhs := by
  have all : ∀ p ∈ productions, (Symbol.nonterminal p.lhs).isOrdinary →
      shelters (Symbol.nonterminal p.lhs).isSettled p.rhs := by
    decide +kernel
  exact all p (mem_productions p) h

/-- A whole statement is ordinary too, unless it lists alternatives. -/
theorem shelters_statement {p : Production} (h : p.lhs = .start) (other : p ≠ .whenStatement) :
    shelters true p.rhs := by
  have all : ∀ p ∈ productions, p.lhs = .start → p ≠ .whenStatement → shelters true p.rhs := by
    decide +kernel
  exact all p (mem_productions p) h other

/-! ## Section 2: Calm trees -/

/-- Is the next token something else than a comma? -/
def NoComma (tail : List Token) : Prop :=
  nextTerminal tail ≠ .operator .comma

/-- No comma comes first where none is known to, in trees or, if these may be
    without tokens, behind them. -/
theorem noComma_of_firsts {ss : List Symbol} (f : Forest ss) {tail : List Token}
    (noFirst : (firsts.ofSymbols ss).first.mem (.operator .comma) = false)
    (behind : (firsts.ofSymbols ss).nullable = true → NoComma tail) :
    NoComma (f.yield ++ tail) := by
  have described := f.describes
  cases yield : f.yield with
  | nil =>
    rw [yield] at described
    exact behind described
  | cons t ts =>
    rw [yield] at described
    have first : (firsts.ofSymbols ss).first.mem t.terminal = true := described
    intro comma
    have same : t.terminal = .operator .comma := comma
    rw [same, noFirst] at first
    cases first

/-- No comma follows a settled symbol, whatever tree stands behind it. -/
theorem noComma_of_shelters {last : Bool} {s : Symbol} {rest : List Symbol} {tail : List Token}
    (h : shelters last (s :: rest)) (settled : s.isSettled) (f : Forest rest)
    (hlast : last → NoComma tail) : NoComma (f.yield ++ tail) := by
  simp only [shelters, settled, Bool.and_eq_true, Bool.or_eq_true, Bool.not_eq_true',
    Bool.not_true, Bool.false_or] at h
  obtain ⟨⟨-, noFirst, behind⟩, -⟩ := h
  refine noComma_of_firsts f noFirst fun nullable => hlast ?_
  rw [nullable] at behind
  simpa using behind

mutual

/-- An ordinary tree is calm, where no comma follows it if it is settled. -/
theorem Tree.calm {s : Symbol} :
    (t : Tree s) → (tail : List Token) → s.isOrdinary → (s.isSettled → NoComma tail) → t.Calm tail
  | .leaf _, _, _, _ => trivial
  | .node p children, tail, ordinary, last => by
    refine ⟨?_, children.calm tail _ (shelters_rhs ordinary) last⟩
    rw [Production.contested, Bool.and_eq_false_iff]
    by_cases arguments : p.lhs = .arguments
    · have noComma : NoComma tail := last (by rw [arguments]; rfl)
      exact .inr (decide_eq_false noComma)
    · exact .inl (decide_eq_false arguments)

/-- Trees side by side are calm where no comma follows a settled one. -/
theorem Forest.calm {ss : List Symbol} :
    (f : Forest ss) → (tail : List Token) → (last : Bool) → shelters last ss →
      (last → NoComma tail) → f.Calm tail
  | .nil, _, _, _, _ => trivial
  | .cons head rest, tail, last, h, hlast => by
    have parts := h
    simp only [shelters, Bool.and_eq_true] at parts
    refine ⟨head.calm _ parts.1.1 fun settled => ?_, rest.calm tail last parts.2 hlast⟩
    exact noComma_of_shelters h settled rest hlast

end

/-! ## Section 3: Whole statements -/

/-- Do the tokens start with the selector of alternatives? -/
def ListsAlternatives (ts : List Token) : Prop :=
  nextTerminal ts = .selector .when

theorem nextTerminal_of_terminal {x : Terminal} {ss : List Symbol}
    (f : Forest (.terminal x :: ss)) : nextTerminal f.yield = x := by
  match f with
  | .cons head rest =>
    obtain ⟨token, rfl, yield⟩ := head.exists_leaf rfl
    rw [Forest.yield, yield]
    rfl

theorem Tree.calm_of_start {s : Symbol} (t : Tree s) (h : s = .nonterminal .start)
    (other : ¬ ListsAlternatives t.yield) : t.Calm [] := by
  match t with
  | .leaf _ => trivial
  | .node p children =>
    have start : p.lhs = .start := Symbol.nonterminal.inj h
    have noComma : NoComma [] := by simp [NoComma, nextTerminal]
    refine ⟨?_, children.calm [] true (shelters_statement start ?_) fun _ => noComma⟩
    · simp [Production.contested, start]
    · rintro rfl
      exact other (nextTerminal_of_terminal children)

end Stencil.Grammar
