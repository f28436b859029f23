import Stencil.Proofs.Grammar.Certificate

/-! # Trees drive the automaton

    On the tokens of a derivation tree the automaton does what the tree
    says: it reads the leaves and carries out the productions, each after
    its parts, and ends with what the tree builds or with the tree's first
    fault.  The one condition is that no comma stands behind the arguments
    of a filter, where the automaton would read on.

    The induction is on trees.  It carries along the item that a forest is
    read for: the item is in the state at hand, its rest is the symbols of
    the forest, and the terminal behind the forest may follow it. -/

namespace Stencil.Grammar

/-! ## Section 1: Single steps -/

section

variable {stack : List Entry} {tokens : List Token}

theorem move_shift {t : Token} {q : Nat}
    (edge : (stateAt (topState stack)).target? (.terminal t.terminal) = some q) :
    move stack (t :: tokens) = .on (⟨q, .terminal t.terminal, lexemePart t.lexeme⟩ :: stack) tokens := by
  have action : (actions (topState stack)).lookup (nextTerminal (t :: tokens)) =
      some (.shift q) := by
    rw [lookup_actions, actionOf, nextTerminal, List.head?_cons, Option.map_some,
      Option.getD_some, edge]
  rw [move, action]
  rfl

theorem move_reduce {p : Production}
    (action : actionOf (stateAt (topState stack)) (itemsAt (topState stack)) (nextTerminal tokens) =
      some (.reduce p)) :
    move stack tokens = perform (some (.reduce p)) stack tokens := by
  rw [move, lookup_actions, action]

theorem move_accept {s : Statement}
    (action : actionOf (stateAt (topState stack)) (itemsAt (topState stack)) (nextTerminal tokens) =
      some .accept)
    (finished : result? stack = some s) :
    move stack tokens = .halt (.ok s) := by
  rw [move, lookup_actions, action, perform, finished]

theorem run_on {fuel : Nat} {after : List Entry} {rest : List Token}
    (h : move stack tokens = .on after rest) : run (fuel + 1) stack tokens = run fuel after rest := by
  rw [run, h, Move.andThen]

theorem run_halt {fuel : Nat} {result : Except Malformed Statement}
    (h : move stack tokens = .halt result) : run (fuel + 1) stack tokens = result := by
  rw [run, h, Move.andThen]

end

/-- A production is carried out on the entries of its symbols. -/
theorem reduce?_append {p : Production} {entries stack : List Entry} {parts : Parts p.rhs} {q : Nat}
    (length : entries.length = p.rhs.length) (hparts : partsOf p.rhs entries.reverse = some parts)
    (edge : (stateAt (topState stack)).target? (.nonterminal p.lhs) = some q) :
    reduce? p (entries ++ stack) =
      some ((p.build parts).map fun part => ⟨q, .nonterminal p.lhs, part⟩ :: stack) := by
  have taken : (entries ++ stack).take p.rhs.length = entries := by rw [← length]; simp
  have dropped : (entries ++ stack).drop p.rhs.length = stack := by rw [← length]; simp
  simp only [reduce?, taken, dropped, hparts, target?_eq, edge, Option.bind_eq_bind,
    Option.bind_some, Option.pure_def]

/-- The parts of one more entry at the end. -/
theorem partsOf_cons {s : Symbol} {ss : List Symbol} {q : Nat} {part : s.Part}
    {entries : List Entry} {parts : Parts ss} (h : partsOf ss entries = some parts) :
    partsOf (s :: ss) (⟨q, s, part⟩ :: entries) = some (part, parts) := by
  simp [partsOf, h]

/-- No production stands for a whole parse inside another one. -/
theorem root_notMem_rhs (p : Production) : Symbol.nonterminal .root ∉ p.rhs := by
  cases p <;> simp [nt, op, sel, identifier, keyword]

theorem lhs_ne_root_of_edge {q target : Nat} {n : Nonterminal}
    (edge : (stateAt q).target? (.nonterminal n) = some target) : n ≠ .root := by
  rintro rfl
  obtain ⟨⟨k, set⟩, hk⟩ := List.exists_mem_of_ne_nil _ (kernelAt_ne_nil edge)
  obtain ⟨i, known, rest, -, hr, -⟩ := kernel_origin edge hk
  exact root_notMem_rhs i.production (List.mem_of_mem_drop (hr ▸ List.mem_cons_self))

theorem finish_of_ne_root {p : Production} (h : p.lhs ≠ .root) : finish p = .reduce p := by
  rw [finish, if_neg]
  rintro rfl
  exact h rfl

/-! ## Section 2: Trees without contest -/

mutual

/-- Does no production of the tree end where the automaton reads on, when
    `tail` stands behind the tree? -/
def Tree.Calm {s : Symbol} : Tree s → List Token → Prop
  | .leaf _, _ => True
  | .node p children, tail => p.contested (nextTerminal tail) = false ∧ children.Calm tail

/-- The same for trees side by side. -/
def Forest.Calm {ss : List Symbol} : Forest ss → List Token → Prop
  | .nil, _ => True
  | .cons head rest, tail => head.Calm (rest.yield ++ tail) ∧ rest.Calm tail

end

/-! ## Section 3: The run on a tree -/

/-- Is every production of a nonterminal an item of the state, and may the
    next token follow it? -/
def Ready (q : Nat) (s : Symbol) (tail : List Token) : Prop :=
  ∀ p : Production, s = .nonterminal p.lhs →
    ∃ set, (⟨p, 0⟩, set) ∈ itemsAt q ∧ set.mem (nextTerminal tail)

/-- A symbol is ready where an item goes on with it and with what a forest
    yields. -/
theorem ready_of_item {q : Nat} {i : Item} {set : TerminalSet} {s : Symbol} {ss : List Symbol}
    (h : (i, set) ∈ itemsAt q) (hr : i.rest = s :: ss) (f : Forest ss) {tail : List Token}
    (ht : set.mem (nextTerminal tail)) : Ready q s (f.yield ++ tail) := by
  rintro p rfl
  obtain ⟨known, member, within⟩ := closed h hr
  exact ⟨known, member, TerminalSet.mem_of_within within (f.describes.mem_next ht)⟩

mutual

/-- On the tokens of a tree, the automaton carries out the tree. -/
theorem Tree.run_yield {s : Symbol} :
    (t : Tree s) → (stack : List Entry) → (tail : List Token) → (fuel q : Nat) →
    (stateAt (topState stack)).target? s = some q → Ready (topState stack) s tail → t.Calm tail →
    run (t.steps + fuel) stack (t.yield ++ tail) =
      t.value >>= fun part => run fuel (⟨q, s, part⟩ :: stack) tail
  | .leaf t, stack, tail, fuel, q, edge, _, _ => by
    -- the token is shifted
    rw [Tree.steps, Nat.add_comm, Tree.yield, List.singleton_append, Tree.value]
    exact run_on (move_shift edge)
  | .node p children, stack, tail, fuel, q, edge, ready, calm => by
    obtain ⟨set, member, next⟩ := ready p rfl
    have rest : (⟨p, 0⟩ : Item).rest = p.rhs := by simp [Item.rest]
    rw [Tree.steps, Nat.add_assoc, Nat.add_comm 1 fuel, Tree.yield, Tree.value]
    rcases children.run_yield stack tail (fuel + 1) ⟨p, 0⟩ set member rest next calm.2 with
      ⟨fault, values, ran⟩ | ⟨parts, entries, last, values, ran, hparts, length, atEnd, nextAtEnd⟩
    · rw [ran, values]
      rfl
    · -- all symbols of the production are on the stack: it is carried out
      have notRoot := lhs_ne_root_of_edge edge
      have action := finishes atEnd (by simp [Item.rest]) nextAtEnd calm.1
      rw [finish_of_ne_root notRoot] at action
      have moved := move_reduce action
      rw [perform, reduce?_append length hparts edge] at moved
      rw [ran, values]
      show _ = p.build parts >>= _
      cases built : p.build parts with
      | error fault =>
        rw [built] at moved
        exact run_halt moved
      | ok part =>
        rw [built] at moved
        exact run_on moved

/-- On the tokens of a forest, the automaton carries out its trees one after
    another, and moves an item that goes on with their symbols along. -/
theorem Forest.run_yield {ss : List Symbol} :
    (f : Forest ss) → (stack : List Entry) → (tail : List Token) → (fuel : Nat) → (i : Item) →
    (set : TerminalSet) → (i, set) ∈ itemsAt (topState stack) → i.rest = ss →
    set.mem (nextTerminal tail) → f.Calm tail →
    (∃ fault, f.values = .error fault ∧
      run (f.steps + fuel) stack (f.yield ++ tail) = .error fault) ∨
    (∃ parts entries last, f.values = .ok parts ∧
      run (f.steps + fuel) stack (f.yield ++ tail) = run fuel (entries ++ stack) tail ∧
      partsOf ss entries.reverse = some parts ∧ entries.length = ss.length ∧
      (⟨i.production, i.dot + ss.length⟩, last) ∈ itemsAt (topState (entries ++ stack)) ∧
      last.mem (nextTerminal tail))
  | .nil, stack, tail, fuel, i, set, member, _, next, _ => by
    refine .inr ⟨(), [], set, rfl, ?_, rfl, rfl, member, next⟩
    rw [Forest.steps, Nat.zero_add, Forest.yield, List.nil_append, List.nil_append]
  | @Forest.cons s ss head rest, stack, tail, fuel, i, set, member, hr, next, calm => by
    obtain ⟨q, known, edge, advanced, within⟩ := advances member hr
    have ran := head.run_yield stack (rest.yield ++ tail) (rest.steps + fuel) q edge
      (ready_of_item member hr rest next) calm.1
    rw [Forest.steps, Nat.add_assoc, Forest.yield, List.append_assoc, ran, Forest.values]
    cases headValue : head.value with
    | error fault => exact .inl ⟨fault, rfl, rfl⟩
    | ok part =>
      have restItem : i.advance.rest = ss := by
        rw [Item.rest, Item.advance, ← List.drop_drop]
        show (i.rest).drop 1 = ss
        rw [hr, List.drop_one, List.tail_cons]
      -- the other trees, on the stack with the first one carried out
      rcases rest.run_yield (⟨q, s, part⟩ :: stack) tail fuel i.advance known advanced restItem
        (TerminalSet.mem_of_within within next) calm.2 with
        ⟨fault, values, ran⟩ | ⟨parts, entries, last, values, ran, hparts, length, atEnd, nextAtEnd⟩
      · refine .inl ⟨fault, ?_, ran⟩
        rw [values]
        rfl
      · refine .inr ⟨(part, parts), entries ++ [⟨q, s, part⟩], last, ?_, ?_, ?_, ?_, ?_, nextAtEnd⟩
        · rw [values]
          rfl
        · rw [List.append_assoc, List.singleton_append]
          exact ran
        · rw [List.reverse_append, List.reverse_singleton, List.singleton_append]
          exact partsOf_cons hparts
        · simp [length]
        · rw [List.append_assoc, List.singleton_append]
          simpa [Item.advance, Nat.add_assoc, Nat.add_comm 1] using atEnd

end

end Stencil.Grammar
