import Stencil.Grammar.Run
import Stencil.Proofs.Computation

/-! # Derivation trees

    What it means for tokens to be derivable from the grammar: there is a
    tree whose leaves are the tokens and whose inner nodes are productions.
    A tree also says what it builds.  A production is carried out after all
    of its parts, from left to right, so the first fault in that order is
    the fault of the tree. -/

namespace Stencil.Grammar

/-! ## Section 1: Trees -/

mutual

/-- A derivation tree with a symbol at its root. -/
inductive Tree : Symbol → Type
  | leaf (t : Token) : Tree (.terminal t.terminal)
  | node (p : Production) (children : Forest p.rhs) : Tree (.nonterminal p.lhs)

/-- Derivation trees side by side. -/
inductive Forest : List Symbol → Type
  | nil : Forest []
  | cons {s : Symbol} {ss : List Symbol} (head : Tree s) (tail : Forest ss) : Forest (s :: ss)

end

mutual

/-- The tokens at the leaves. -/
def Tree.yield {s : Symbol} : Tree s → List Token
  | .leaf t => [t]
  | .node _ children => children.yield

/-- The tokens at the leaves. -/
def Forest.yield {ss : List Symbol} : Forest ss → List Token
  | .nil => []
  | .cons head tail => head.yield ++ tail.yield

end

mutual

/-- What a tree builds, or the first fault on the way. -/
def Tree.value {s : Symbol} : Tree s → Except Malformed s.Part
  | .leaf t => .ok (lexemePart t.lexeme)
  | .node p children => children.values >>= p.build

/-- What each of some trees builds. -/
def Forest.values {ss : List Symbol} : Forest ss → Except Malformed (Parts ss)
  | .nil => .ok ()
  | .cons head tail => do
    let part ← head.value
    let parts ← tail.values
    return (part, parts)

end

mutual

/-- The number of leaves and productions. -/
def Tree.steps {s : Symbol} : Tree s → Nat
  | .leaf _ => 1
  | .node _ children => children.steps + 1

/-- The number of leaves and productions. -/
def Forest.steps {ss : List Symbol} : Forest ss → Nat
  | .nil => 0
  | .cons head tail => head.steps + tail.steps

end

/-- What a production builds is built of what its trees build. -/
theorem Tree.value_node {p : Production} {f : Forest p.rhs} {part : NonterminalPart p.lhs} :
    (Tree.node p f).value = .ok part ↔
      ∃ parts, f.values = .ok parts ∧ p.build parts = .ok part := by
  rw [Tree.value]
  constructor
  · exact eq_ok_of_bind
  · rintro ⟨parts, values, built⟩
    rw [values]
    exact built

section

variable {s : Symbol} {ss : List Symbol} {t : Tree s} {f : Forest ss} {part : s.Part}
  {parts : Parts ss}

theorem Forest.values_cons :
    (Forest.cons t f).values = .ok (part, parts) ↔ t.value = .ok part ∧ f.values = .ok parts := by
  rw [Forest.values]
  constructor
  · intro made
    obtain ⟨a, value, made⟩ := eq_ok_of_bind made
    obtain ⟨as, values, same⟩ := eq_ok_of_bind_pure made
    cases same
    exact ⟨value, values⟩
  · rintro ⟨value, values⟩
    rw [value, values]
    rfl

theorem Forest.values_single :
    (Forest.cons t .nil).values = .ok (part, ()) ↔ t.value = .ok part :=
  Forest.values_cons.trans (and_iff_left rfl)

end

/-! ## Section 2: What a tree must say -/

/-- What a production asks of the tokens below it: the texts of a cycle are
    texts, and modifiers are those that exist. -/
def Production.Admits : Production → List Token → Prop
  | .cycleText, ts => ∀ t ∈ ts, ∃ s, t.lexeme = .literal (.text s)
  | .flagModifier, ts => ∀ t ∈ ts, t.lexeme = .identifier "reversed"
  | .valuedModifier, ts =>
    ∀ t ∈ ts.head?, ∃ name ∈ ["cols", "limit", "offset"], t.lexeme = .keyword name
  | _, _ => True

mutual

/-- Every text of a cycle is a text, and every modifier one that exists. -/
def Tree.Proper {s : Symbol} : Tree s → Prop
  | .leaf _ => True
  | .node p children => p.Admits children.yield ∧ children.Proper

/-- The same for every one of some trees. -/
def Forest.Proper {ss : List Symbol} : Forest ss → Prop
  | .nil => True
  | .cons head tail => head.Proper ∧ tail.Proper

end

/-! ## Section 3: Derivability -/

/-- Can the tokens be derived from the symbols? -/
def Derives (ss : List Symbol) (ts : List Token) : Prop :=
  ∃ f : Forest ss, f.yield = ts

/-- Can the tokens be derived as a statement? -/
def Derivable (ts : List Token) : Prop :=
  ∃ t : Tree (.nonterminal .start), t.yield = ts

/-- Do the tokens begin some statement? -/
def Viable (ts : List Token) : Prop :=
  ∃ more, Derivable (ts ++ more)

theorem Derives.nil : Derives [] [] :=
  ⟨.nil, by simp [Forest.yield]⟩

theorem Derives.cons {s : Symbol} {ss : List Symbol} {ts us : List Token} (t : Tree s)
    (ht : t.yield = ts) (h : Derives ss us) : Derives (s :: ss) (ts ++ us) := by
  obtain ⟨f, rfl⟩ := h
  exact ⟨.cons t f, by rw [Forest.yield, ht]⟩

/-- A single symbol derives what a tree below it yields. -/
theorem Derives.of_tree {s : Symbol} (t : Tree s) : Derives [s] t.yield := by
  simpa using Derives.cons t rfl Derives.nil

theorem derives_singleton {s : Symbol} {ts : List Token} :
    Derives [s] ts ↔ ∃ t : Tree s, t.yield = ts := by
  constructor
  · rintro ⟨f, rfl⟩
    match f with
    | .cons t .nil => exact ⟨t, by simp [Forest.yield]⟩
  · rintro ⟨t, rfl⟩
    exact .of_tree t

theorem Derives.append {ss rs : List Symbol} {ts us : List Token} (h : Derives ss ts)
    (k : Derives rs us) : Derives (ss ++ rs) (ts ++ us) := by
  induction ss generalizing ts with
  | nil =>
    obtain ⟨f, rfl⟩ := h
    match f with
    | .nil => simpa [Forest.yield] using k
  | cons s ss ih =>
    obtain ⟨f, rfl⟩ := h
    match f with
    | .cons t f =>
      rw [Forest.yield, List.append_assoc, List.cons_append]
      exact .cons t rfl (ih ⟨f, rfl⟩)

/-- A production derives what its symbols derive. -/
theorem Derives.node {p : Production} {ts : List Token} (h : Derives p.rhs ts) :
    Derives [.nonterminal p.lhs] ts := by
  obtain ⟨f, rfl⟩ := h
  exact derives_singleton.2 ⟨.node p f, by rw [Tree.yield]⟩

theorem Tree.exists_node {s : Symbol} (t : Tree s) {n : Nonterminal} (h : s = .nonterminal n) :
    ∃ (p : Production) (f : Forest p.rhs), p.lhs = n ∧ t.yield = f.yield := by
  match t with
  | .leaf _ => cases h
  | .node p children => exact ⟨p, children, Symbol.nonterminal.inj h, rfl⟩

/-- Below a terminal there is one token. -/
theorem Tree.exists_leaf {s : Symbol} (t : Tree s) {x : Terminal} (h : s = .terminal x) :
    ∃ token : Token, token.terminal = x ∧ t.yield = [token] := by
  match t with
  | .leaf token => exact ⟨token, Symbol.terminal.inj h, rfl⟩
  | .node _ _ => cases h

/-- What a whole parse derives is a statement. -/
theorem derivable_of_root {ts : List Token} (h : Derives [.nonterminal .root] ts) :
    Derivable ts := by
  obtain ⟨t, rfl⟩ := derives_singleton.1 h
  obtain ⟨p, f, root, yield⟩ := t.exists_node rfl
  obtain rfl : p = .root := by cases p <;> first | rfl | cases root
  rw [yield]
  exact derives_singleton.1 ⟨f, rfl⟩

/-! ## Section 4: Every symbol derives something -/

/-- A token with a given terminal. -/
def sampleToken : Terminal → Token
  | .literal => ⟨.literal .nil, 0, ""⟩
  | .identifier => ⟨.identifier "", 0, ""⟩
  | .keyword => ⟨.keyword "", 0, ""⟩
  | .property => ⟨.property "", 0, ""⟩
  | .selector s => ⟨.selector s, 0, ""⟩
  | .operator o => ⟨.operator o, 0, ""⟩
  | .endOfInput => ⟨.literal .nil, 0, ""⟩

theorem terminal_sampleToken {t : Terminal} (h : t ≠ .endOfInput) :
    (sampleToken t).terminal = t := by
  cases t <;> first | rfl | contradiction

/-- Does the symbol derive some tokens? -/
def Productive (s : Symbol) : Prop :=
  ∃ ts, Derives [s] ts

theorem productive_terminal {t : Terminal} (h : t ≠ .endOfInput) : Productive (.terminal t) := by
  have leaf : Productive (.terminal (sampleToken t).terminal) := ⟨_, .of_tree (.leaf _)⟩
  rwa [terminal_sampleToken h] at leaf

theorem exists_derives {ss : List Symbol} (h : ∀ s ∈ ss, Productive s) : ∃ ts, Derives ss ts := by
  induction ss with
  | nil => exact ⟨[], .nil⟩
  | cons s ss ih =>
    obtain ⟨ts, hs⟩ := h s (by simp)
    obtain ⟨us, hss⟩ := ih fun r hr => h r (by simp [hr])
    exact ⟨ts ++ us, hs.append hss⟩

/-- A nonterminal is productive when the symbols of one of its productions
    are. -/
theorem Productive.node (p : Production) (h : ∀ s ∈ p.rhs, Productive s) :
    Productive (.nonterminal p.lhs) := by
  obtain ⟨ts, h⟩ := exists_derives h
  exact ⟨ts, h.node⟩

theorem productive_primary : Productive (.nonterminal .primary) :=
  .node .literal fun s hs => by
    obtain rfl := List.mem_singleton.1 hs
    exact productive_terminal (by decide)

theorem productive_cond : Productive (.nonterminal .cond) := by
  have filtered := Productive.node .filtered (by simpa using productive_primary)
  have rel := Productive.node .rel (by simpa using filtered)
  have conj := Productive.node .conj (by simpa using rel)
  exact .node .cond (by simpa using conj)

theorem productive_cycleText : Productive (.nonterminal .cycleText) :=
  .node .cycleText fun s hs => by
    obtain rfl := List.mem_singleton.1 hs
    exact productive_terminal (by decide)

theorem productive_nonterminal (n : Nonterminal) : Productive (.nonterminal n) := by
  have operator (o : Operator) : Productive (op o) := productive_terminal (by simp)
  have name : Productive identifier := productive_terminal (by simp)
  have filtered := Productive.node .filtered (by simpa using productive_primary)
  have rel := Productive.node .rel (by simpa using filtered)
  have conj := Productive.node .conj (by simpa using rel)
  have cycleRest := Productive.node .cycleRestNone (by simp)
  have cycleTail := Productive.node .plainTail (by simpa using cycleRest)
  have modifier := Productive.node .flagModifier (by simpa using name)
  have start := Productive.node .expression (by simpa using productive_cond)
  -- for each one, a production of which all symbols are known to be productive
  cases n with
  | root => exact .node .root (by simpa using start)
  | start => exact start
  | cycle => exact .node .cycle (by simp [productive_cycleText, cycleTail])
  | cycleTail => exact cycleTail
  | cycleRest => exact cycleRest
  | cycleMore => exact .node .cycleMoreOne (by simp [operator, productive_cycleText])
  | cycleText => exact productive_cycleText
  | loop => exact .node .loop (by simp [operator, name, filtered])
  | modifierMore => exact .node .modifierOne (by simpa using modifier)
  | modifier => exact modifier
  | alternatives => exact .node .alternativesNone (by simp)
  | alternativeMore => exact .node .alternativeOne (by simpa using productive_cond)
  | cond => exact productive_cond
  | conj => exact conj
  | rel => exact rel
  | filtered => exact filtered
  | arguments => exact .node .argumentsOne (by simpa using productive_primary)
  | argumentMore => exact .node .argumentOne (by simp [operator, productive_primary])
  | primary => exact productive_primary

/-- No production reads on past the end of the input. -/
theorem endOfInput_notMem_rhs (p : Production) : Symbol.terminal .endOfInput ∉ p.rhs := by
  cases p <;> simp [nt, op, sel, identifier, keyword]

theorem productive_of_mem_rhs {p : Production} {s : Symbol} (h : s ∈ p.rhs) : Productive s := by
  match s with
  | .nonterminal n => exact productive_nonterminal n
  | .terminal t =>
    refine productive_terminal ?_
    rintro rfl
    exact endOfInput_notMem_rhs p h

end Stencil.Grammar
