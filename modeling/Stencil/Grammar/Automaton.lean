import Stencil.Grammar.Basic

/-! # The parsing automaton

    The LALR(1) automaton of the grammar.  A state is a set of items, the
    productions under way with a dot for how far they have come; each item
    of a state's kernel carries the terminals that may follow it.  Where
    both reading on and finishing a production are possible, the automaton
    reads on. -/

namespace Stencil.Grammar

/-! ## Section 1: Sets of terminals -/

/-- All operators. -/
def operators : List Operator :=
  [.eq, .neq, .ge, .le, .lt, .gt, .dot, .pipe, .semicolon, .equal, .colon, .comma, .lpar, .rpar,
    .lsqb, .rsqb, .dotdot, .and, .or, .contains, .isIn]

/-- All terminals. -/
def terminals : List Terminal :=
  [.literal, .identifier, .keyword, .property, .endOfInput] ++
    Selector.all.map .selector ++ operators.map .operator

/-- The number of a terminal. -/
def terminalIndex : Terminal → Nat
  | .literal => 0
  | .identifier => 1
  | .keyword => 2
  | .property => 3
  | .endOfInput => 4
  | .selector s => 5 + s.ctorIdx
  | .operator o => 9 + o.ctorIdx

/-- A set of terminals: bit `i` stands for the one of number `i`. -/
structure TerminalSet where
  bits : Nat
deriving DecidableEq

namespace TerminalSet

/-- No terminal. -/
def empty : TerminalSet := ⟨0⟩

/-- One terminal. -/
def single (t : Terminal) : TerminalSet := ⟨1 <<< terminalIndex t⟩

/-- The terminals of either set. -/
def union (a b : TerminalSet) : TerminalSet := ⟨a.bits ||| b.bits⟩

/-- Is the terminal in the set? -/
def mem (a : TerminalSet) (t : Terminal) : Bool := a.bits.testBit (terminalIndex t)

end TerminalSet

/-! ## Section 2: First sets -/

/-- What is known of some words: whether one is empty, and with which
    terminals they start. -/
structure Firsts where
  nullable : Bool
  first : TerminalSet
deriving DecidableEq

namespace Firsts

/-- No word. -/
def none : Firsts := ⟨false, .empty⟩

/-- The empty word only. -/
def nothing : Firsts := ⟨true, .empty⟩

/-- The words of either kind. -/
def orElse (a b : Firsts) : Firsts :=
  ⟨a.nullable || b.nullable, a.first.union b.first⟩

/-- The words of one kind with those of another kind behind. -/
def andThen (a b : Firsts) : Firsts :=
  if a.nullable then ⟨b.nullable, a.first.union b.first⟩ else a

end Firsts

/-- The knowledge about the words of every nonterminal, in the order of
    the list. -/
abbrev FirstTable := List Firsts

/-- What a table knows of a nonterminal. -/
def FirstTable.get (table : FirstTable) (n : Nonterminal) : Firsts :=
  table.getD n.ctorIdx .none

/-- What follows for a sequence of symbols. -/
def FirstTable.ofSymbols (table : FirstTable) : List Symbol → Firsts
  | [] => .nothing
  | .terminal t :: _ => ⟨false, .single t⟩
  | .nonterminal n :: rest => (table.get n).andThen (table.ofSymbols rest)

/-- One round of inference: what the productions of each nonterminal show. -/
def FirstTable.round (table : FirstTable) : FirstTable :=
  nonterminals.map fun n =>
    (productionsOf n).foldl (fun known p => known.orElse (table.ofSymbols p.rhs)) .none

/-- Repeats `f` until nothing changes, at most `fuel` times. -/
def untilStable {α : Type} [DecidableEq α] (f : α → α) : Nat → α → α
  | 0, a => a
  | fuel + 1, a => if f a = a then a else untilStable f fuel (f a)

/-- A number of rounds in which every nonterminal can learn about every
    terminal and the empty word. -/
def roundBound : Nat := nonterminals.length * (terminals.length + 1)

/-- What is known of all nonterminals. -/
def firsts : FirstTable :=
  untilStable FirstTable.round roundBound (nonterminals.map fun _ => .none)

/-! ## Section 3: Left corners -/

/-- A nonterminal that words of another one may start with, and what is
    known of the words behind it. -/
structure Corner where
  head : Nonterminal
  behind : Firsts
deriving DecidableEq

/-- Adds a corner to those found. -/
def addCorner (n : Nonterminal) (behind : Firsts) : List Corner → List Corner
  | [] => [⟨n, behind⟩]
  | c :: rest =>
    if c.head = n then ⟨n, c.behind.orElse behind⟩ :: rest else c :: addCorner n behind rest

/-- The corners found so far, and the corners of their productions. -/
def growCorners (found : List Corner) : List Corner :=
  found.foldl (fun found c =>
    (productionsOf c.head).foldl (fun found p =>
      match p.rhs with
      | .nonterminal n :: rest => addCorner n ((firsts.ofSymbols rest).andThen c.behind) found
      | _ => found) found) found

/-- The nonterminals that words of `n` may start with, itself included. -/
def corners (n : Nonterminal) : List Corner :=
  untilStable growCorners roundBound [⟨n, .nothing⟩]

/-- The corners of every nonterminal, in the order of the list. -/
def cornerTable : List (List Corner) :=
  nonterminals.map corners

/-! ## Section 4: Items -/

/-- A production under way: the first `dot` symbols have been read. -/
structure Item where
  production : Production
  dot : Nat
deriving DecidableEq

/-- The symbols still to come. -/
def Item.rest (i : Item) : List Symbol :=
  i.production.rhs.drop i.dot

/-- The item after one more symbol. -/
def Item.advance (i : Item) : Item :=
  ⟨i.production, i.dot + 1⟩

/-- Items with the terminals that may follow each. -/
abbrev Followed := List (Item × TerminalSet)

/-- Adds terminals that may follow a nonterminal. -/
def addFollow (n : Nonterminal) (set : TerminalSet) :
    List (Nonterminal × TerminalSet) → List (Nonterminal × TerminalSet)
  | [] => [(n, set)]
  | (m, known) :: rest =>
    if m = n then (m, known.union set) :: rest else (m, known) :: addFollow n set rest

/-- The nonterminals that must be derived in a state with the given kernel,
    and what may follow each: the corners of those after a dot. -/
def followPending (kernel : Followed) : List (Nonterminal × TerminalSet) :=
  kernel.foldl (fun found (i, set) =>
    match i.rest with
    | .nonterminal n :: rest =>
      (cornerTable.getD n.ctorIdx []).foldl (fun found c =>
        let behind := c.behind.andThen (firsts.ofSymbols rest)
        addFollow c.head (behind.andThen ⟨false, set⟩).first found) found
    | _ => found) []

/-- All items of a state: its kernel, and the productions of the pending
    nonterminals from their beginning. -/
def followItems (kernel : Followed) : Followed :=
  kernel ++ (followPending kernel).flatMap fun (n, set) =>
    (productionsOf n).map fun p => (⟨p, 0⟩, set)

/-- The items of a state, when nothing is known of what follows. -/
def closure (kernel : List Item) : List Item :=
  (followItems (kernel.map (·, .empty))).map (·.1)

/-! ## Section 5: States -/

/-- All symbols. -/
def symbols : List Symbol :=
  terminals.map .terminal ++ nonterminals.map .nonterminal

/-- The number of a symbol. -/
def symbolIndex : Symbol → Nat
  | .terminal t => terminalIndex t
  | .nonterminal n => terminals.length + n.ctorIdx

/-- Does an item go on with a symbol? -/
def Item.expects (i : Item) (s : Symbol) : Bool :=
  match i.rest with
  | [] => false
  | next :: _ => Nat.beq (symbolIndex next) (symbolIndex s)

/-- The symbols that some items go on with. -/
def nextSymbols (items : List Item) : List Symbol :=
  let expected := items.foldl (fun found i =>
    match i.rest with
    | [] => found
    | s :: _ => found ||| (1 <<< symbolIndex s)) 0
  symbols.filter fun s => expected.testBit (symbolIndex s)

/-- The kernel after reading one more symbol. -/
def advanceOver (items : List Item) (s : Symbol) : List Item :=
  (items.filter (·.expects s)).map Item.advance

/-- The number of a production. -/
def productionIndex : Production → Nat
  | .compare r => 50 + r.ctorIdx
  | p => p.ctorIdx

/-- A number that tells kernels apart: each item has a bit of its own. -/
def kernelCode (kernel : List Item) : Nat :=
  kernel.foldl (fun code i => code ||| (1 <<< (8 * productionIndex i.production + i.dot))) 0

/-- A state: its kernel, and the state that each symbol leads to. -/
structure State where
  kernel : List Item
  targets : List (Symbol × Nat)

/-- Kernels with their codes in order of discovery, and the states of those
    already visited. -/
structure Discovery where
  kernels : List (Nat × List Item)
  visited : List State

/-- The position of a code, counted from `start`. -/
def position? (code : Nat) (start : Nat) : List (Nat × List Item) → Option Nat
  | [] => none
  | (c, _) :: rest => bif Nat.beq c code then some start else position? code (start + 1) rest

/-- Follows symbols from some items: numbers the kernels that they lead to,
    and adds those that are new. -/
def follow (items : List Item) : List Symbol → List (Nat × List Item) → List (Symbol × Nat) →
    List (Nat × List Item) × List (Symbol × Nat)
  | [], kernels, targets => (kernels, targets)
  | s :: rest, kernels, targets =>
    let next := advanceOver items s
    match position? (kernelCode next) 0 kernels with
    | some k => follow items rest kernels (targets ++ [(s, k)])
    | none =>
      follow items rest (kernels ++ [(kernelCode next, next)]) (targets ++ [(s, kernels.length)])

/-- Visits kernels until none is left. -/
def Discovery.run : Nat → Discovery → Discovery
  | 0, d => d
  | fuel + 1, d =>
    match d.kernels[d.visited.length]? with
    | none => d
    | some (_, kernel) =>
      let items := closure kernel
      match follow items (nextSymbols items) d.kernels [] with
      | (kernels, targets) => Discovery.run fuel ⟨kernels, d.visited ++ [⟨kernel, targets⟩]⟩

/-- A bound on the number of states that is never reached. -/
def stateBound : Nat := 1000

/-- The kernel where every parse starts. -/
def initialKernel : List Item := [⟨.root, 0⟩]

/-- The states, the first one being where every parse starts. -/
@[irreducible] def states : List State :=
  (Discovery.run stateBound ⟨[(kernelCode initialKernel, initialKernel)], []⟩).visited

/-! ## Section 6: Lookahead -/

/-- The items that go on with a symbol, after it. -/
def arrivals (items : Followed) (s : Symbol) : Followed :=
  (items.filter (·.1.expects s)).map fun (i, set) => (i.advance, set)

/-- A kernel with what its items are followed by where they come from. -/
def receive (arrived kernel : Followed) : Followed :=
  kernel.map fun (i, set) =>
    (i, arrived.foldl (fun set (j, more) => if j = i then set.union more else set) set)

/-- Carries what follows the items of one state over to the states that it
    leads to. -/
def propagate (targets : List (Symbol × Nat)) (items : Followed) (kernels : List Followed) :
    List Followed :=
  targets.foldl (fun kernels (s, target) => kernels.modify target (receive (arrivals items s)))
    kernels

/-- One round over some states, the first of which has the given number. -/
def carryFrom (kernels : List Followed) : Nat → List State → List Followed
  | _, [] => kernels
  | i, s :: rest =>
    carryFrom (propagate s.targets (followItems (kernels.getD i [])) kernels) (i + 1) rest

/-- What is known at the beginning: only the end of the input follows a
    whole statement. -/
def initialFollowed : List Followed :=
  (states.map fun s => s.kernel.map (·, .empty)).set 0
    (initialKernel.map (·, .single .endOfInput))

/-- The kernels of all states, with what may follow their items. -/
@[irreducible] def kernels : List Followed :=
  untilStable (carryFrom · 0 states) (states.length * terminals.length) initialFollowed

/-! ## Section 7: Actions -/

/-- What to do in a state on a terminal. -/
inductive Action where
  | shift (state : Nat)
  | reduce (p : Production)
  | accept
deriving DecidableEq

/-- The actions of a state and its targets by nonterminal. -/
structure Row where
  actions : List (Terminal × Action)
  targets : List (Nonterminal × Nat)

/-- The state that a symbol leads to. -/
def State.target? (state : State) (s : Symbol) : Option Nat :=
  (state.targets.find? fun (r, _) => Nat.beq (symbolIndex r) (symbolIndex s)).map (·.2)

/-- The action of a state on a terminal: reading on goes before finishing a
    production. -/
def actionOf (state : State) (items : Followed) (t : Terminal) : Option Action :=
  match state.target? (.terminal t) with
  | some target => some (.shift target)
  | none =>
    (items.find? fun (i, set) => i.rest.isEmpty && set.mem t).map fun (i, _) =>
      if i.production = .root then .accept else .reduce i.production

/-- The row of a state whose kernel is followed by the given terminals. -/
def rowOf (state : State) (kernel : Followed) : Row :=
  let items := followItems kernel
  { actions := terminals.filterMap fun t => (actionOf state items t).map (t, ·)
    targets := nonterminals.filterMap fun n => (state.target? (.nonterminal n)).map (n, ·) }

/-- The table of the automaton, a row for each state. -/
def table : Array Row :=
  (List.zipWith rowOf states kernels).toArray

end Stencil.Grammar
