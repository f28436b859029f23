import Stencil.Proofs.Grammar.Certificate

/-! # The stack holds derivation trees

    Whatever the automaton does, each entry of its stack stands for a tree
    whose value is the entry's part, and the trees together yield the tokens
    read so far.  What it accepts is therefore the value of a tree that
    yields all tokens.

    A move looks at the tokens ahead only as far as the next one, so a run
    up to a token does not depend on what stands behind that token. -/

namespace Stencil.Grammar

/-! ## Section 1: Moves -/

/-- A move that does not end the run: it reads a token, or it puts what a
    production builds in the place of the production's symbols. -/
inductive Step : List Entry → List Token → List Entry → List Token → Prop
  | shift {stack : List Entry} {t : Token} {tokens : List Token} {q : Nat}
      (edge : (stateAt (topState stack)).target? (.terminal t.terminal) = some q) :
      Step stack (t :: tokens) (⟨q, .terminal t.terminal, lexemePart t.lexeme⟩ :: stack) tokens
  | reduce {entries stack : List Entry} {tokens : List Token} {p : Production}
      {parts : Parts p.rhs} {part : NonterminalPart p.lhs} {q : Nat}
      (hparts : partsOf p.rhs entries.reverse = some parts) (built : p.build parts = .ok part)
      (edge : (stateAt (topState stack)).target? (.nonterminal p.lhs) = some q) :
      Step (entries ++ stack) tokens (⟨q, .nonterminal p.lhs, part⟩ :: stack) tokens

/-- An action to read on comes from an edge of the automaton. -/
theorem edge_of_shift {state : State} {items : Followed} {t : Terminal} {q : Nat}
    (h : actionOf state items t = some (.shift q)) : state.target? (.terminal t) = some q := by
  unfold actionOf at h
  split at h
  next target edge => simpa using edge.trans (by simpa using h)
  next =>
    obtain ⟨⟨i, set⟩, -, finished⟩ := Option.map_eq_some_iff.1 h
    by_cases root : i.production = .root <;> simp [root] at finished

/-- An action to accept comes from a whole statement in front of one of its
    followers. -/
theorem item_of_accept {state : State} {items : Followed} {t : Terminal}
    (h : actionOf state items t = some .accept) :
    ∃ i set, (i, set) ∈ items ∧ i.rest = [] ∧ i.production = .root ∧ set.mem t := by
  unfold actionOf at h
  split at h
  next => simp at h
  next =>
    obtain ⟨⟨i, set⟩, found, finished⟩ := Option.map_eq_some_iff.1 h
    have holds := List.find?_some found
    simp only [Bool.and_eq_true, List.isEmpty_iff] at holds
    by_cases root : i.production = .root
    · exact ⟨i, set, List.mem_of_find?_eq_some found, holds.1, root, holds.2⟩
    · simp [root] at finished

/-- What carrying out a production says about the stack. -/
theorem step_of_reduce {p : Production} {stack after : List Entry} (tokens : List Token)
    (h : reduce? p stack = some (.ok after)) : Step stack tokens after tokens := by
  simp only [reduce?, Option.bind_eq_bind, Option.bind_eq_some_iff, Option.pure_def,
    Option.some.injEq] at h
  obtain ⟨parts, hparts, q, edge, built⟩ := h
  rw [target?_eq] at edge
  obtain ⟨part, hbuild, rfl⟩ := eq_ok_of_bind_pure built
  have step : Step _ tokens _ tokens := .reduce hparts hbuild edge
  rwa [List.take_append_drop] at step

/-- A run goes on only by such moves. -/
theorem step_of_move {stack after : List Entry} {tokens rest : List Token}
    (h : move stack tokens = .on after rest) : Step stack tokens after rest := by
  rw [move, lookup_actions] at h
  cases action : actionOf (stateAt (topState stack)) (itemsAt (topState stack))
      (nextTerminal tokens) with
  | none =>
    rw [action] at h
    cases h
  | some a =>
    rw [action] at h
    cases a with
    | shift q =>
      cases tokens with
      | nil => cases h
      | cons t tokens =>
        cases h
        exact .shift (edge_of_shift action)
    | reduce p =>
      rw [perform] at h
      split at h
      next => cases h
      next => cases h
      next reduced =>
        cases h
        exact step_of_reduce _ reduced
    | accept =>
      rw [perform] at h
      split at h <;> cases h

theorem Step.suffix {stack after : List Entry} {tokens rest : List Token}
    (step : Step stack tokens after rest) : ∃ read, tokens = read ++ rest := by
  cases step with
  | shift => exact ⟨[_], rfl⟩
  | reduce => exact ⟨[], rfl⟩

/-! ## Section 2: The trees on the stack -/

/-- The tokens are those of trees, one for each entry of the stack, and each
    entry's state is where its symbol leads from the state below. -/
inductive Grown : List Entry → List Token → Prop
  | nil : Grown [] []
  | push {stack : List Entry} {ts : List Token} {s : Symbol} {part : s.Part} {q : Nat}
      (below : Grown stack ts) (t : Tree s) (value : t.value = .ok part)
      (edge : (stateAt (topState stack)).target? s = some q) :
      Grown (⟨q, s, part⟩ :: stack) (ts ++ t.yield)

/-- The uppermost entries that carry the parts of some symbols stand for
    trees side by side. -/
theorem Grown.forest {ss : List Symbol} {parts : Parts ss} {entries stack : List Entry}
    {ts : List Token} (h : Grown (entries ++ stack) ts)
    (hparts : partsOf ss entries.reverse = some parts) :
    ∃ (before : List Token) (f : Forest ss),
      Grown stack before ∧ f.values = .ok parts ∧ ts = before ++ f.yield := by
  generalize reversed : entries.reverse = inOrder at hparts
  obtain rfl : entries = inOrder.reverse := by simp [← reversed]
  clear reversed
  -- the lowest entry belongs to the first symbol
  induction ss generalizing inOrder stack ts with
  | nil =>
    cases inOrder with
    | nil => exact ⟨ts, .nil, by simpa using h, rfl, by simp [Forest.yield]⟩
    | cons e inOrder => cases hparts
  | cons s ss ih =>
    cases inOrder with
    | nil => cases hparts
    | cons e inOrder =>
      rw [partsOf] at hparts
      split at hparts
      next same =>
        obtain ⟨others, hothers, rfl⟩ := Option.map_eq_some_iff.1 hparts
        have above : Grown (inOrder.reverse ++ (e :: stack)) ts := by simpa using h
        obtain ⟨before, f, grown, values, rfl⟩ := ih _ hothers above
        cases grown with
        | push below t value edge =>
          cases same
          refine ⟨_, .cons t f, below, ?_, by simp [Forest.yield]⟩
          rw [Forest.values, value, values]
          rfl
      next => cases hparts

/-- A move keeps the trees: it reads some tokens and puts their tree, or the
    tree above some trees, on the stack. -/
theorem Grown.step {stack after : List Entry} {ts tokens rest : List Token} (h : Grown stack ts)
    (step : Step stack tokens after rest) :
    ∃ read, tokens = read ++ rest ∧ Grown after (ts ++ read) := by
  cases step with
  | shift edge =>
    rename_i t q
    have grown := h.push (.leaf t) rfl edge
    exact ⟨[t], by simp, by simpa [Tree.yield] using grown⟩
  | reduce hparts built edge =>
    rename_i p parts part q
    obtain ⟨before, f, below, values, rfl⟩ := h.forest hparts
    have value : (Tree.node p f).value = .ok part := by
      rw [Tree.value, values]
      exact built
    have grown := below.push (.node p f) value edge
    exact ⟨[], by simp, by simpa [Tree.yield] using grown⟩

/-! ## Section 3: Runs -/

/-- The run comes from one stack, with tokens ahead of it, to another. -/
inductive Reaches : List Entry → List Token → List Entry → List Token → Prop
  | refl {stack : List Entry} {tokens : List Token} : Reaches stack tokens stack tokens
  | step {stack mid after : List Entry} {tokens ahead rest : List Token}
      (first : move stack tokens = .on mid ahead) (then_ : Reaches mid ahead after rest) :
      Reaches stack tokens after rest

/-- A run keeps the trees. -/
theorem Grown.reaches {stack after : List Entry} {ts tokens rest : List Token} (h : Grown stack ts)
    (run : Reaches stack tokens after rest) :
    ∃ read, tokens = read ++ rest ∧ Grown after (ts ++ read) := by
  induction run generalizing ts with
  | refl => exact ⟨[], by simp, by simpa using h⟩
  | step first _ ih =>
    obtain ⟨read, rfl, grown⟩ := h.step (step_of_move first)
    obtain ⟨more, rfl, grown⟩ := ih grown
    exact ⟨read ++ more, by simp, by simpa using grown⟩

/-- A move does not depend on what stands behind the next token: it reads
    that token, leaves it, or ends the run. -/
theorem move_cons (stack : List Entry) (t : Token) :
    (∃ after, ∀ us, move stack (t :: us) = .on after us) ∨
    (∃ after, ∀ us, move stack (t :: us) = .on after (t :: us)) ∨
    ∃ result, ∀ us, move stack (t :: us) = .halt result := by
  have moved (us : List Token) : move stack (t :: us) =
      perform ((actions (topState stack)).lookup t.terminal) stack (t :: us) := by
    rw [move, nextTerminal, List.head?_cons, Option.map_some, Option.getD_some]
  have blame (us : List Token) :
      blockedAt (topState stack) (t :: us) = blockedAt (topState stack) [t] := by
    rw [blockedAt, blockedAt, List.head?_cons, List.head?_cons]
  -- neither the action nor the blame looks behind the next token
  simp only [moved]
  generalize (actions (topState stack)).lookup t.terminal = action
  cases action with
  | none =>
    simp only [perform, blame]
    exact .inr (.inr ⟨_, fun us => rfl⟩)
  | some a =>
    cases a with
    | shift q => exact .inl ⟨_, fun us => rfl⟩
    | reduce p =>
      simp only [perform, blame]
      cases reduce? p stack with
      | none => exact .inr (.inr ⟨_, fun us => rfl⟩)
      | some outcome =>
        cases outcome with
        | error fault => exact .inr (.inr ⟨_, fun us => rfl⟩)
        | ok after => exact .inr (.inl ⟨_, fun us => rfl⟩)
    | accept =>
      simp only [perform, blame]
      cases result? stack with
      | none => exact .inr (.inr ⟨_, fun us => rfl⟩)
      | some s => exact .inr (.inr ⟨_, fun us => rfl⟩)

/-- A run up to a token does not depend on what stands behind that token. -/
theorem Reaches.behind {stack after : List Entry} {tokens rest : List Token} {t : Token}
    (run : Reaches stack tokens after (t :: rest)) :
    ∃ read, tokens = read ++ t :: rest ∧
      ∀ more, Reaches stack (read ++ t :: more) after (t :: more) := by
  generalize ahead : t :: rest = last at run
  induction run with
  | refl => exact ⟨[], rfl, fun _ => .refl⟩
  | @step stack mid _ tokens _ _ first _ ih =>
    obtain ⟨read, rfl, others⟩ := ih ahead
    subst ahead
    cases tokens with
    | nil =>
      obtain ⟨_, unread⟩ := (step_of_move first).suffix
      simp at unread
    | cons u us =>
      rcases move_cons stack u with ⟨_, same⟩ | ⟨_, same⟩ | ⟨_, same⟩
      · -- the token is read
        obtain ⟨rfl, rfl⟩ := Move.on.inj ((same us).symm.trans first)
        exact ⟨u :: read, rfl, fun more => .step (same _) (others more)⟩
      · -- the token stays, and stands in front of what is read later
        obtain ⟨rfl, unread⟩ := Move.on.inj ((same us).symm.trans first)
        refine ⟨read, unread, fun more => ?_⟩
        cases read with
        | nil =>
          obtain ⟨rfl, rfl⟩ := List.cons.inj unread
          exact .step (same more) (others more)
        | cons v read =>
          obtain ⟨rfl, rfl⟩ := List.cons.inj unread
          exact .step (same _) (others more)
      · cases (same us).symm.trans first

end Stencil.Grammar
