import Stencil.Proofs.Grammar.Calm

/-! # Where the automaton reads on

    The arguments of a filter are contested: with a comma behind them the
    automaton reads one more argument, whatever else the comma might be.
    In an expression this concerns the end only, since everywhere inside
    something else than a comma stands behind arguments.  So a tree of an
    expression is calm in front of anything but a comma, and in front of a
    comma too unless it ends in the arguments of a filter. -/

namespace Stencil.Grammar

/-! ## Section 1: Trees of the same lexemes -/

mutual

/-- What a tree builds depends on the lexemes only, not on where they
    stand. -/
theorem Tree.exists_alike {s : Symbol} : (t : Tree s) → (tokens : List Token) →
    tokens.map Token.lexeme = t.yield.map Token.lexeme →
    ∃ u : Tree s, u.yield = tokens ∧ u.value = t.value
  | .leaf t, tokens, same => by
    rw [Tree.yield, List.map_singleton, List.map_eq_singleton_iff] at same
    obtain ⟨other, rfl, same⟩ := same
    obtain ⟨lexeme, start, text⟩ := t
    obtain ⟨_, start, text⟩ := other
    cases same
    exact ⟨.leaf ⟨lexeme, start, text⟩, rfl, rfl⟩
  | .node p children, tokens, same => by
    obtain ⟨others, yield, values⟩ := children.exists_alike tokens same
    exact ⟨.node p others, yield, by rw [Tree.value, Tree.value, values]⟩

theorem Forest.exists_alike {ss : List Symbol} : (f : Forest ss) → (tokens : List Token) →
    tokens.map Token.lexeme = f.yield.map Token.lexeme →
    ∃ g : Forest ss, g.yield = tokens ∧ g.values = f.values
  | .nil, tokens, same => by
    obtain rfl : tokens = [] := List.map_eq_nil_iff.1 same
    exact ⟨.nil, rfl, rfl⟩
  | .cons head rest, tokens, same => by
    rw [Forest.yield, List.map_append] at same
    obtain ⟨front, behind, rfl, here, later⟩ := List.map_eq_append_iff.1 same
    obtain ⟨t, yield, value⟩ := head.exists_alike front here
    obtain ⟨f, yields, values⟩ := rest.exists_alike behind later
    exact ⟨.cons t f, by rw [Forest.yield, yield, yields],
      by rw [Forest.values, Forest.values, value, values]⟩

end

/-! ## Section 2: Ending in arguments -/

/-- Do the tokens end in the arguments of a filter? -/
def EndsInArguments (tokens : List Token) : Prop :=
  ∃ before name args, tokens = before ++ name :: args ∧ name.terminal = .keyword ∧
    Derives [nt .arguments] args

theorem EndsInArguments.behind {tokens : List Token} (h : EndsInArguments tokens)
    (front : List Token) : EndsInArguments (front ++ tokens) := by
  obtain ⟨before, name, args, rfl, named, derived⟩ := h
  exact ⟨front ++ before, name, args, by simp, named, derived⟩

theorem EndsInArguments.of_alike {tokens others : List Token} (h : EndsInArguments tokens)
    (same : others.map Token.lexeme = tokens.map Token.lexeme) : EndsInArguments others := by
  obtain ⟨before, name, args, rfl, named, derived⟩ := h
  rw [List.map_append, List.map_cons] at same
  obtain ⟨front, rest, rfl, -, later⟩ := List.map_eq_append_iff.1 same
  obtain ⟨other, behind, rfl, spelled, last⟩ := List.map_eq_cons_iff.1 later
  obtain ⟨t, rfl⟩ := derives_singleton.1 derived
  obtain ⟨u, yield, -⟩ := t.exists_alike behind last
  refine ⟨front, other, behind, rfl, ?_, derives_singleton.2 ⟨u, yield⟩⟩
  rw [← named, Token.terminal, Token.terminal, spelled]

/-! ## Section 3: Contests at the end only -/

/-- Are arguments among these symbols only at the end, behind the name of a
    filter, and does no comma follow another settled symbol but behind the
    end? -/
def guards : List Symbol → Bool
  | [] => true
  | s :: rest =>
    (s = keyword && rest = [nt .arguments]) ||
      (s.isOrdinary && s ≠ nt .arguments &&
        (!s.isSettled || rest = [] || (!(firsts.ofSymbols rest).nullable &&
          !(firsts.ofSymbols rest).first.mem (.operator .comma))) &&
        guards rest)

theorem guards_rhs {p : Production} (h : (Symbol.nonterminal p.lhs).isOrdinary)
    (other : p.lhs ≠ .arguments) : guards p.rhs := by
  have all : ∀ p ∈ productions, (Symbol.nonterminal p.lhs).isOrdinary → p.lhs ≠ .arguments →
      guards p.rhs := by
    decide +kernel
  exact all p (mem_productions p) h other

mutual

/-- A tree is calm whatever stands behind it, unless it ends in the arguments
    of a filter. -/
theorem Tree.calm_or_ends {s : Symbol} : (t : Tree s) → (tail : List Token) → s.isOrdinary →
    s ≠ nt .arguments → t.Calm tail ∨ EndsInArguments t.yield
  | .leaf _, _, _, _ => .inl trivial
  | .node p children, tail, ordinary, other => by
    have notArguments : p.lhs ≠ .arguments := fun same => other (congrArg nt same)
    refine (children.calm_or_ends tail (guards_rhs ordinary notArguments)).imp_left fun calm => ?_
    refine ⟨?_, calm⟩
    rw [Production.contested, decide_eq_false notArguments, Bool.false_and]

theorem Forest.calm_or_ends {ss : List Symbol} : (f : Forest ss) → (tail : List Token) →
    guards ss → f.Calm tail ∨ EndsInArguments f.yield
  | .nil, _, _ => .inl trivial
  | @Forest.cons s ss head rest, tail, h => by
    simp only [guards, Bool.or_eq_true, Bool.and_eq_true, decide_eq_true_eq, ne_eq, decide_not,
      Bool.not_eq_true', decide_eq_false_iff_not] at h
    rcases h with ⟨rfl, rfl⟩ | ⟨⟨⟨ordinary, other⟩, settles⟩, later⟩
    · -- the arguments of a filter, behind its name
      obtain ⟨name, named, yield⟩ := head.exists_leaf rfl
      refine .inr ⟨[], name, rest.yield, ?_, named, ⟨rest, rfl⟩⟩
      rw [Forest.yield, yield]
      rfl
    rcases rest.calm_or_ends tail later with calm | ends
    · rcases settles with (unsettled | rfl) | ⟨some_token, noComma⟩
      · have here := head.calm (rest.yield ++ tail) ordinary fun settled => by
          rw [unsettled] at settled
          cases settled
        exact .inl ⟨here, calm⟩
      · cases rest with
        | nil =>
          have alone : (Forest.cons head .nil).yield = head.yield := List.append_nil _
          rw [alone]
          exact (head.calm_or_ends tail ordinary other).imp_left fun here => ⟨here, calm⟩
      · have behind : NoComma (rest.yield ++ tail) := by
          refine noComma_of_firsts rest noComma fun none => ?_
          rw [some_token] at none
          cases none
        exact .inl ⟨head.calm _ ordinary fun _ => behind, calm⟩
    · exact .inr (ends.behind head.yield)

end

end Stencil.Grammar
