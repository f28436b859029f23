import Stencil.Proofs.Grammar.Calm
import Stencil.Proofs.Grammar.Proper
import Stencil.Proofs.Grammar.Viability

/-! # The parser is exact

    Outside of alternatives, the parser accepts the tokens that some proper
    tree yields, and no others.  What it blames is the first token with
    which the tokens so far begin no statement: the trees on its stack show
    that all tokens before it do, and were there a statement with the token
    in its place, the automaton would read the token there. -/

namespace Stencil

/-- The selector in front of a statement of this form. -/
def Statement.selector : Statement → Option Selector
  | .expression _ => none
  | .assignment _ _ => some .assign
  | .cycle _ => some .cycle
  | .loop _ => some .loop
  | .when _ => some .when

namespace Grammar

/-! ## Section 1: Trees are parsed -/

/-- On the tokens of a statement without contest, the automaton ends with
    what the tree builds. -/
theorem Tree.run_statement {t : Tree (.nonterminal .start)} (calm : t.Calm []) (fuel : Nat) :
    run (t.steps + (fuel + 1)) [] t.yield = t.value := by
  obtain ⟨set, member, next⟩ := initial_item
  have rest : (⟨.root, 0⟩ : Item).rest = [.nonterminal .start] := rfl
  obtain ⟨q, known, edge, advanced, within⟩ := advances member rest
  have ran := t.run_yield [] [] (fuel + 1) q edge (ready_of_item member rest .nil next) calm
  rw [List.append_nil] at ran
  rw [ran]
  cases value : t.value with
  | error fault => rfl
  | ok s =>
    -- the whole statement is on the stack, and the input is at its end
    let stack : List Entry := [⟨q, .nonterminal .start, s⟩]
    have final : known.mem (nextTerminal []) := TerminalSet.mem_of_within within next
    have calm : Production.root.contested (nextTerminal []) = false := rfl
    have action := finishes advanced rfl final calm
    have halted : move stack [] = .halt (.ok s) := move_accept action rfl
    exact (ok_bind s _).trans (run_halt halted)

theorem parseTokens_yield {t : Tree (.nonterminal .start)} (calm : t.Calm []) :
    parseTokens t.yield = t.value := by
  have swap : stepBound t.yield.length + (t.steps + 1) =
      t.steps + (stepBound t.yield.length + 1) := by omega
  rw [← run_stepBound_add _ (t.steps + 1), swap, Tree.run_statement calm]

/-- A statement that lists no alternatives is parsed to what its tree
    builds. -/
theorem parseTokens_eq_value {t : Tree (.nonterminal .start)} {tokens : List Token}
    (yield : t.yield = tokens) (other : ¬ ListsAlternatives tokens) :
    parseTokens tokens = t.value := by
  subst yield
  exact parseTokens_yield (t.calm_of_start rfl other)

/-! ## Section 2: What is parsed is a tree -/

theorem Lexeme.terminal_ne_endOfInput (l : Lexeme) : l.terminal ≠ .endOfInput := by
  cases l <;> exact nofun

theorem eq_nil_of_nextTerminal {tokens : List Token} (h : nextTerminal tokens = .endOfInput) :
    tokens = [] := by
  cases tokens with
  | nil => rfl
  | cons t tokens => exact absurd h (Lexeme.terminal_ne_endOfInput t.lexeme)

/-- A run ends well only at the end of the input, with the statement alone
    on the stack. -/
theorem accepted_of_move {stack : List Entry} {tokens : List Token} {s : Statement}
    (h : move stack tokens = .halt (.ok s)) :
    tokens = [] ∧ ∃ q, stack = [⟨q, .nonterminal .start, s⟩] := by
  rw [move, lookup_actions] at h
  cases action : actionOf (stateAt (topState stack)) (itemsAt (topState stack))
      (nextTerminal tokens) with
  | none =>
    rw [action] at h
    cases h
  | some a =>
    rw [action] at h
    cases a with
    | shift q => cases tokens <;> cases h
    | reduce p =>
      rw [perform] at h
      split at h <;> cases h
    | accept =>
      -- accepted is only in front of the end of the input, by a finished item of the root
      obtain ⟨i, set, member, atEnd, root, next⟩ := item_of_accept action
      refine ⟨eq_nil_of_nextTerminal (endOfInput_of_root member atEnd root next), ?_⟩
      rw [perform] at h
      split at h
      next => cases h
      next finished =>
        cases h
        unfold result? at finished
        split at finished
        next q _ =>
          cases finished
          exact ⟨q, rfl⟩
        next => cases finished

/-- What the parser accepts is what some tree builds. -/
theorem exists_tree_of_parseTokens {tokens : List Token} {s : Statement}
    (h : parseTokens tokens = .ok s) :
    ∃ t : Tree (.nonterminal .start), t.yield = tokens ∧ t.value = .ok s := by
  obtain ⟨after, rest, run, halted⟩ := parseTokens_reaches tokens
  rw [h] at halted
  obtain ⟨rfl, q, rfl⟩ := accepted_of_move halted
  obtain ⟨read, rfl, grown⟩ := Grown.nil.reaches run
  rw [List.nil_append] at grown
  cases grown with
  | push below t value edge =>
    cases below
    exact ⟨t, by simp, value⟩

/-! ## Section 3: What is blamed -/

theorem isSaid_of_build {p : Production} {parts : Parts p.rhs} {fault : Malformed}
    (h : p.build parts = .error fault) : IsSaid fault := by
  -- three productions look at what they are given, and the others always build
  cases p with
  | cycleText =>
    have failed : cycleText parts.1 = .error fault := h
    unfold cycleText at failed
    split at failed <;> cases failed
    trivial
  | flagModifier =>
    have failed : flagModifier parts.1 = .error fault := h
    unfold flagModifier at failed
    split at failed <;> cases failed
    trivial
  | valuedModifier =>
    have failed : valuedModifier parts.1 parts.2.1 = .error fault := h
    rcases valuedModifier_cases_name parts.1 parts.2.1 with ⟨-, m, built⟩ | ⟨-, named⟩
    · rw [built] at failed
      cases failed
    · rw [named] at failed
      cases failed
      trivial
  | _ => cases h

theorem isSaid_of_reduce {p : Production} {stack : List Entry} {fault : Malformed}
    (h : reduce? p stack = some (.error fault)) : IsSaid fault := by
  simp only [reduce?, Option.bind_eq_bind, Option.bind_eq_some_iff, Option.pure_def,
    Option.some.injEq] at h
  obtain ⟨parts, -, q, -, failed⟩ := h
  exact isSaid_of_build (eq_error_of_bind_pure failed)

/-- The automaton blames the next token, or what the tokens before say. -/
theorem fault_of_move {stack : List Entry} {tokens : List Token} {fault : Malformed}
    (h : move stack tokens = .halt (.error fault)) :
    fault = blockedAt (topState stack) tokens ∨ IsSaid fault := by
  rw [move] at h
  generalize (actions (topState stack)).lookup (nextTerminal tokens) = action at h
  -- the next token is blamed wherever the table has no action that can be carried out
  have of_blocked (blocked : Move.halt (.error (blockedAt (topState stack) tokens)) =
      .halt (.error fault)) : fault = blockedAt (topState stack) tokens ∨ IsSaid fault :=
    .inl (Except.error.inj (Move.halt.inj blocked)).symm
  cases action with
  | none => exact of_blocked h
  | some a =>
    cases a with
    | shift q =>
      cases tokens with
      | nil => exact of_blocked h
      | cons t tokens => cases h
    | reduce p =>
      rw [perform] at h
      split at h
      next => exact of_blocked h
      next failed =>
        cases h
        exact .inr (isSaid_of_reduce failed)
      next => cases h
    | accept =>
      rw [perform] at h
      split at h
      next => exact of_blocked h
      next => cases h

/-- A token is blamed when it is the next one. -/
theorem found_of_move {stack : List Entry} {tokens : List Token} {found : Option Lexeme}
    {expected : List Terminal}
    (h : move stack tokens = .halt (.error (.unexpectedToken found expected))) :
    found = tokens.head?.map Token.lexeme := by
  obtain same | said := fault_of_move h
  · exact (Malformed.unexpectedToken.inj same).1
  · exact said.elim

/-- What the parser finds fault with is a token, or what tokens say. -/
theorem fault_of_parseTokens {tokens : List Token} {fault : Malformed}
    (h : parseTokens tokens = .error fault) :
    (∃ found expected, fault = .unexpectedToken found expected) ∨ IsSaid fault := by
  obtain ⟨after, rest, -, halted⟩ := parseTokens_reaches tokens
  rw [h] at halted
  exact (fault_of_move halted).imp (fun same => ⟨_, _, same⟩) id

/-- Where a token is blamed, it is blamed whatever stands behind it. -/
theorem blamed_behind {tokens rest : List Token} {after : List Entry} {t : Token}
    {result : Except Malformed Statement} (run : Reaches [] tokens after (t :: rest))
    (halted : move after (t :: rest) = .halt result) :
    ∃ before, tokens = before ++ t :: rest ∧
      ∀ more, parseTokens (before ++ t :: more) = result := by
  obtain ⟨before, rfl, others⟩ := run.behind
  refine ⟨before, rfl, fun more => parseTokens_of_reaches (others more) ?_⟩
  rcases move_cons after t with ⟨_, same⟩ | ⟨_, same⟩ | ⟨_, same⟩
  · cases (same rest).symm.trans halted
  · cases (same rest).symm.trans halted
  · rw [same more, ← same rest, halted]

/-- A tree that lists no alternatives is never blamed on a token. -/
theorem parseTokens_ne_unexpectedToken {tokens : List Token} (h : Derivable tokens)
    (other : ¬ ListsAlternatives tokens) (found : Option Lexeme) (expected : List Terminal) :
    parseTokens tokens ≠ .error (.unexpectedToken found expected) := by
  obtain ⟨t, yield⟩ := h
  rw [parseTokens_eq_value yield other]
  intro blamed
  rcases t.value_cases with ⟨⟨s, value⟩, -⟩ | ⟨fault, value, -, said⟩
  · rw [value] at blamed
    cases blamed
  · rw [value] at blamed
    cases blamed
    exact said

/-! ## Section 4: Exactness -/

/-- The selector that some tokens start with. -/
def selected (tokens : List Token) : Option Selector :=
  match nextTerminal tokens with
  | .selector s => some s
  | _ => none

/-- No expression starts with a selector. -/
theorem selected_of_cond {tokens : List Token}
    (h : (firsts.ofSymbols [nt .cond]).Describes tokens) : selected tokens = none := by
  cases tokens with
  | nil => rfl
  | cons t tokens =>
    have first : (firsts.ofSymbols [nt .cond]).first.mem t.terminal = true := h
    have none : ∀ s, (firsts.ofSymbols [nt .cond]).first.mem (.selector s) = false := by
      intro s
      cases s <;> decide +kernel
    show (match t.terminal with | .selector s => some s | _ => Option.none) = Option.none
    split
    next s selector =>
      rw [selector, none s] at first
      cases first
    next => rfl

theorem selected_of_terminal {r : Selector} {ss : List Symbol} (f : Forest (sel r :: ss)) :
    selected f.yield = some r := by
  rw [selected, nextTerminal_of_terminal f]

/-- The first token selects the form of what a tree builds. -/
theorem Tree.selector_of_value {r : Symbol} (t : Tree r) (h : r = .nonterminal .start)
    {s : Statement} (value : h ▸ t.value = Except.ok s) : s.selector = selected t.yield := by
  match t with
  | .leaf _ => cases h
  | .node p children =>
    cases p with
    | expression =>
      obtain ⟨parts, -, built⟩ := (Tree.value_node (p := .expression)).1 value
      cases built
      exact (selected_of_cond children.describes).symm
    | assignment =>
      obtain ⟨parts, -, built⟩ := (Tree.value_node (p := .assignment)).1 value
      cases built
      exact (selected_of_terminal children).symm
    | cycleStatement =>
      obtain ⟨parts, -, built⟩ := (Tree.value_node (p := .cycleStatement)).1 value
      cases built
      exact (selected_of_terminal children).symm
    | loopStatement =>
      obtain ⟨parts, -, built⟩ := (Tree.value_node (p := .loopStatement)).1 value
      cases built
      exact (selected_of_terminal children).symm
    | whenStatement =>
      obtain ⟨parts, -, built⟩ := (Tree.value_node (p := .whenStatement)).1 value
      cases built
      exact (selected_of_terminal children).symm
    | _ => cases h

/-- Is `found` the first token, the end of the input counting as the last
    one, with which the tokens so far begin no statement? -/
def FirstMisplaced (tokens : List Token) (found : Option Lexeme) : Prop :=
  ∃ before rest, tokens = before ++ rest ∧ found = rest.head?.map Token.lexeme ∧ Viable before ∧
    match rest with
    | [] => ¬ Derivable before
    | t :: _ => ¬ Viable (before ++ [t])

theorem firstMisplaced_of_parseTokens {tokens : List Token} (other : ¬ ListsAlternatives tokens)
    {found : Option Lexeme} {expected : List Terminal}
    (h : parseTokens tokens = .error (.unexpectedToken found expected)) :
    FirstMisplaced tokens found := by
  obtain ⟨after, rest, run, halted⟩ := parseTokens_reaches tokens
  rw [h] at halted
  obtain ⟨before, same, grown⟩ := Grown.nil.reaches run
  rw [List.nil_append] at grown
  refine ⟨before, rest, same, found_of_move halted, grown.viable, ?_⟩
  -- what could be derived would not be blamed: neither all tokens, nor those up to the blamed one
  -- with others behind, since the blame does not depend on what is behind
  cases rest with
  | nil =>
    intro derivable
    rw [List.append_nil] at same
    subst same
    exact parseTokens_ne_unexpectedToken derivable other found expected h
  | cons t rest =>
    rintro ⟨more, derivable⟩
    obtain ⟨before', same', blamed⟩ := blamed_behind run halted
    obtain rfl : before' = before := List.append_cancel_right (same'.symm.trans same)
    have next (us : List Token) : nextTerminal (before' ++ t :: us) = nextTerminal tokens := by
      rw [same]
      cases before' <;> rfl
    rw [List.append_assoc, List.singleton_append] at derivable
    have other : ¬ ListsAlternatives (before' ++ t :: more) := by
      rwa [ListsAlternatives, next]
    exact parseTokens_ne_unexpectedToken derivable other found expected (blamed more)

/-- Tokens that list no alternatives are accepted exactly if some proper
    tree yields them.  What is accepted has the form that the first token
    selects, and is what such a tree builds.  What is blamed is the first
    token that is out of place. -/
theorem parseTokens_exact {tokens : List Token} (other : ¬ ListsAlternatives tokens) :
    ((∃ s, parseTokens tokens = .ok s) ↔
      ∃ t : Tree (.nonterminal .start), t.yield = tokens ∧ t.Proper) ∧
    (∀ s, parseTokens tokens = .ok s → s.selector = selected tokens ∧
      ∃ t : Tree (.nonterminal .start), t.yield = tokens ∧ t.value = .ok s) ∧
    ∀ found expected, parseTokens tokens = .error (.unexpectedToken found expected) →
      FirstMisplaced tokens found := by
  refine ⟨⟨?_, ?_⟩, ?_, fun _ _ h => firstMisplaced_of_parseTokens other h⟩
  · rintro ⟨s, h⟩
    obtain ⟨t, yield, value⟩ := exists_tree_of_parseTokens h
    refine ⟨t, yield, ?_⟩
    rcases t.value_cases with ⟨-, proper⟩ | ⟨fault, failed, -⟩
    · exact proper
    · rw [value] at failed
      cases failed
  · rintro ⟨t, yield, proper⟩
    rw [parseTokens_eq_value yield other]
    rcases t.value_cases with ⟨built, -⟩ | ⟨-, -, improper, -⟩
    · exact built
    · exact absurd proper improper
  · intro s h
    obtain ⟨t, yield, value⟩ := exists_tree_of_parseTokens h
    refine ⟨?_, t, yield, value⟩
    rw [← yield]
    exact t.selector_of_value rfl value

/-- A chain of two comparisons. -/
def comparisonChain : List Token :=
  [sampleToken .identifier, sampleToken (.operator .lt), sampleToken .identifier,
    sampleToken (.operator .lt), sampleToken .identifier]

theorem comparisonChain_exact :
    ¬ ListsAlternatives comparisonChain ∧
    ((∃ s, parseTokens comparisonChain = .ok s) ↔
      ∃ t : Tree (.nonterminal .start), t.yield = comparisonChain ∧ t.Proper) ∧
    (∀ s, parseTokens comparisonChain = .ok s → s.selector = none) ∧
    ∀ found expected, parseTokens comparisonChain = .error (.unexpectedToken found expected) →
      FirstMisplaced comparisonChain found := by
  have other : ¬ ListsAlternatives comparisonChain := by
    show Terminal.identifier ≠ .selector .when
    decide
  obtain ⟨accepts, form, blames⟩ := parseTokens_exact other
  exact ⟨other, accepts, fun s h => (form s h).1, blames⟩

end Grammar

end Stencil
