import Stencil.Grammar.Automaton

/-! # Running the automaton

    The automaton reads tokens from left to right and keeps a stack of the
    symbols read or built so far.  A production is carried out as soon as
    the next terminal allows it, so what it builds, or the fault it finds,
    comes before any fault further on. -/

namespace Stencil.Grammar

/-- A symbol on the stack, what it contributes, and the state after it. -/
structure Entry where
  state : Nat
  symbol : Symbol
  part : symbol.Part

/-- The parts of a sequence of symbols from the entries that carry them. -/
def partsOf : (symbols : List Symbol) → List Entry → Option (Parts symbols)
  | [], [] => some ()
  | s :: symbols, e :: entries =>
    if h : e.symbol = s then (partsOf symbols entries).map fun rest => (h ▸ e.part, rest)
    else none
  | _, _ => none

/-- The state on top of a stack. -/
def topState (stack : List Entry) : Nat :=
  match stack with
  | [] => 0
  | e :: _ => e.state

/-- The actions of a state. -/
def actions (state : Nat) : List (Terminal × Action) :=
  (table[state]?.map Row.actions).getD []

/-- The state that a nonterminal leads to. -/
def target? (state : Nat) (n : Nonterminal) : Option Nat :=
  table[state]?.bind (·.targets.lookup n)

/-- The terminal of the next token. -/
def nextTerminal (tokens : List Token) : Terminal :=
  (tokens.head?.map Token.terminal).getD .endOfInput

/-- The fault of tokens that cannot go on in a state. -/
def blockedAt (state : Nat) (tokens : List Token) : Malformed :=
  .unexpectedToken (tokens.head?.map Token.lexeme) ((actions state).map (·.1))

/-- Carries out a production: what it builds takes the place of its symbols. -/
def reduce? (p : Production) (stack : List Entry) : Option (Except Malformed (List Entry)) := do
  let n := p.rhs.length
  let parts ← partsOf p.rhs (stack.take n).reverse
  let rest := stack.drop n
  let target ← target? (topState rest) p.lhs
  return (p.build parts).map fun part => ⟨target, .nonterminal p.lhs, part⟩ :: rest

/-- The statement that a finished stack holds. -/
def result? : List Entry → Option Statement
  | [⟨_, .nonterminal .start, s⟩] => some s
  | _ => none

/-- A move of the automaton: on with a stack and the tokens ahead, or the
    end of the run. -/
inductive Move where
  | on (stack : List Entry) (tokens : List Token)
  | halt (result : Except Malformed Statement)

/-- Carries out the action for the next token.  Without one, the token is to
    blame. -/
def perform (action : Option Action) (stack : List Entry) (tokens : List Token) : Move :=
  let blocked : Move := .halt (.error (blockedAt (topState stack) tokens))
  match action with
  | none => blocked
  | some (.shift state) =>
    match tokens with
    | [] => blocked
    | t :: rest => .on (⟨state, .terminal t.terminal, lexemePart t.lexeme⟩ :: stack) rest
  | some (.reduce p) =>
    match reduce? p stack with
    | none => blocked
    | some (.error cause) => .halt (.error cause)
    | some (.ok stack) => .on stack tokens
  | some .accept =>
    match result? stack with
    | none => blocked
    | some s => .halt (.ok s)

/-- The move that the table gives for the next token. -/
def move (stack : List Entry) (tokens : List Token) : Move :=
  perform ((actions (topState stack)).lookup (nextTerminal tokens)) stack tokens

/-- The end of a run after a move, when `rest` says how a run goes on. -/
def Move.andThen (rest : List Entry → List Token → Except Malformed Statement) :
    Move → Except Malformed Statement
  | .on stack tokens => rest stack tokens
  | .halt result => result

/-- Runs the automaton for at most `fuel` moves.  A run that gets stuck
    blames the token at hand. -/
def run : Nat → List Entry → List Token → Except Malformed Statement
  | 0, stack, tokens => .error (blockedAt (topState stack) tokens)
  | fuel + 1, stack, tokens => (move stack tokens).andThen (run fuel)

/-- Enough steps for a number of tokens: each token is read once, and a
    bounded number of productions is carried out for each. -/
def stepBound (tokens : Nat) : Nat :=
  16 * (tokens + 1)

/-- Parses tokens to a statement. -/
def parseTokens (tokens : List Token) : Except Malformed Statement :=
  run (stepBound tokens.length) [] tokens

end Stencil.Grammar
