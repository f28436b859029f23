import Stencil.Fault
import Stencil.Statement.Basic

/-! # The grammar of statements

    The productions of statements and expressions, each with what it
    builds.  The first token selects the form of the statement: one of the
    four selectors, or no selector for an expression.  From loose to tight,
    an expression consists of disjunctions, conjunctions, one comparison,
    filters, and primaries; filters, like the two connectives, associate to
    the left, and comparisons do not chain. -/

namespace Stencil.Grammar

/-! ## Section 1: Symbols and their parts -/

/-- The nonterminals.  Those whose name ends in `More` are the non-empty
    repetitions. -/
inductive Nonterminal where
  | root
  | start
  | cycle
  | cycleTail
  | cycleRest
  | cycleMore
  | cycleText
  | loop
  | modifierMore
  | modifier
  | alternatives
  | alternativeMore
  | cond
  | conj
  | rel
  | filtered
  | arguments
  | argumentMore
  | primary
deriving DecidableEq

/-- A symbol of the grammar. -/
inductive Symbol where
  | terminal (t : Terminal)
  | nonterminal (n : Nonterminal)
deriving DecidableEq

/-- What follows the first text of a cycle.  After a colon, that text was
    the name of the group. -/
inductive CycleTail where
  | grouped (first : String) (rest : List String)
  | plain (rest : List String)

/-- What a terminal contributes: the datum of its token, if it has one. -/
@[reducible] def TerminalPart : Terminal → Type
  | .literal => Literal
  | .identifier | .keyword | .property => String
  | .selector _ | .operator _ | .endOfInput => Unit

/-- What a nonterminal builds. -/
@[reducible] def NonterminalPart : Nonterminal → Type
  | .root | .start => Statement
  | .cycle => Cycle
  | .cycleTail => CycleTail
  | .cycleRest | .cycleMore => List String
  | .cycleText => String
  | .loop => LoopHeader
  | .modifierMore => List Modifier
  | .modifier => Modifier
  | .alternatives | .alternativeMore | .arguments | .argumentMore => List Expr
  | .cond | .conj | .rel | .filtered | .primary => Expr

/-- What a symbol contributes to the production it stands in. -/
@[reducible] def Symbol.Part : Symbol → Type
  | .terminal t => TerminalPart t
  | .nonterminal n => NonterminalPart n

/-- The parts of a sequence of symbols. -/
@[reducible] def Parts : List Symbol → Type
  | [] => Unit
  | s :: rest => s.Part × Parts rest

/-- The part of a token. -/
def lexemePart : (l : Lexeme) → TerminalPart l.terminal
  | .literal value => value
  | .identifier name => name
  | .keyword name => name
  | .property name => name
  | .selector _ => ()
  | .operator _ => ()

/-! ## Section 2: Productions -/

/-- The productions, named for what they build. -/
inductive Production where
  | root
  | expression
  | assignment
  | cycleStatement
  | loopStatement
  | whenStatement
  | cycle
  | namedCycle
  | groupedTail
  | plainTail
  | cycleRestNone
  | cycleRestSome
  | cycleMoreOne
  | cycleMoreAdd
  | cycleText
  | loop
  | modifiedLoop
  | modifierOne
  | modifierAdd
  | flagModifier
  | valuedModifier
  | alternativesNone
  | alternativesOne
  | alternativesSome
  | alternativeOneComma
  | alternativeOne
  | alternativeAddComma
  | alternativeAdd
  | cond
  | or
  | conj
  | and
  | rel
  | compare (r : Relation)
  | filtered
  | filterCall
  | filterCallArguments
  | argumentsOne
  | argumentsSome
  | argumentOne
  | argumentAdd
  | literal
  | var
  | property
  | index
  | parenthesized
  | range
deriving DecidableEq

/-- All relations. -/
def relations : List Relation :=
  [.eq, .neq, .lt, .gt, .le, .ge, .contains, .isIn]

/-- The operator that spells a relation. -/
def relationOperator : Relation → Operator
  | .eq => .eq
  | .neq => .neq
  | .lt => .lt
  | .gt => .gt
  | .le => .le
  | .ge => .ge
  | .contains => .contains
  | .isIn => .isIn

/-- All nonterminals. -/
def nonterminals : List Nonterminal :=
  [.root, .start, .cycle, .cycleTail, .cycleRest, .cycleMore, .cycleText, .loop, .modifierMore,
    .modifier, .alternatives, .alternativeMore, .cond, .conj, .rel, .filtered, .arguments,
    .argumentMore, .primary]

/-- The productions that build a nonterminal. -/
def productionsOf : Nonterminal → List Production
  | .root => [.root]
  | .start => [.expression, .assignment, .cycleStatement, .loopStatement, .whenStatement]
  | .cycle => [.cycle, .namedCycle]
  | .cycleTail => [.groupedTail, .plainTail]
  | .cycleRest => [.cycleRestNone, .cycleRestSome]
  | .cycleMore => [.cycleMoreOne, .cycleMoreAdd]
  | .cycleText => [.cycleText]
  | .loop => [.loop, .modifiedLoop]
  | .modifierMore => [.modifierOne, .modifierAdd]
  | .modifier => [.flagModifier, .valuedModifier]
  | .alternatives => [.alternativesNone, .alternativesOne, .alternativesSome]
  | .alternativeMore =>
    [.alternativeOneComma, .alternativeOne, .alternativeAddComma, .alternativeAdd]
  | .cond => [.cond, .or]
  | .conj => [.conj, .and]
  | .rel => .rel :: relations.map .compare
  | .filtered => [.filtered, .filterCall, .filterCallArguments]
  | .arguments => [.argumentsOne, .argumentsSome]
  | .argumentMore => [.argumentOne, .argumentAdd]
  | .primary => [.literal, .var, .property, .index, .parenthesized, .range]

/-- All productions. -/
def productions : List Production :=
  nonterminals.flatMap productionsOf

/-- The nonterminal that a production builds. -/
@[reducible] def Production.lhs : Production → Nonterminal
  | .root => .root
  | .expression | .assignment | .cycleStatement | .loopStatement | .whenStatement => .start
  | .cycle | .namedCycle => .cycle
  | .groupedTail | .plainTail => .cycleTail
  | .cycleRestNone | .cycleRestSome => .cycleRest
  | .cycleMoreOne | .cycleMoreAdd => .cycleMore
  | .cycleText => .cycleText
  | .loop | .modifiedLoop => .loop
  | .modifierOne | .modifierAdd => .modifierMore
  | .flagModifier | .valuedModifier => .modifier
  | .alternativesNone | .alternativesOne | .alternativesSome => .alternatives
  | .alternativeOneComma | .alternativeOne | .alternativeAddComma | .alternativeAdd =>
    .alternativeMore
  | .cond | .or => .cond
  | .conj | .and => .conj
  | .rel | .compare _ => .rel
  | .filtered | .filterCall | .filterCallArguments => .filtered
  | .argumentsOne | .argumentsSome => .arguments
  | .argumentOne | .argumentAdd => .argumentMore
  | .literal | .var | .property | .index | .parenthesized | .range => .primary

/-- A nonterminal as a symbol. -/
@[reducible] def nt (n : Nonterminal) : Symbol := .nonterminal n

/-- An operator as a symbol. -/
@[reducible] def op (o : Operator) : Symbol := .terminal (.operator o)

/-- A selector as a symbol. -/
@[reducible] def sel (s : Selector) : Symbol := .terminal (.selector s)

/-- An identifier as a symbol. -/
@[reducible] def identifier : Symbol := .terminal .identifier

/-- A keyword as a symbol. -/
@[reducible] def keyword : Symbol := .terminal .keyword

/-- The symbols of a production. -/
@[reducible] def Production.rhs : Production → List Symbol
  | .root => [nt .start]
  | .expression => [nt .cond]
  | .assignment => [sel .assign, identifier, op .equal, nt .cond]
  | .cycleStatement => [sel .cycle, nt .cycle]
  | .loopStatement => [sel .loop, nt .loop]
  | .whenStatement => [sel .when, nt .alternatives]
  | .cycle => [nt .cycleText, nt .cycleTail]
  | .namedCycle => [keyword, nt .cycleText, nt .cycleRest]
  | .groupedTail => [op .colon, nt .cycleText, nt .cycleRest]
  | .plainTail => [nt .cycleRest]
  | .cycleRestNone => []
  | .cycleRestSome => [nt .cycleMore]
  | .cycleMoreOne => [op .comma, nt .cycleText]
  | .cycleMoreAdd => [nt .cycleMore, op .comma, nt .cycleText]
  | .cycleText => [.terminal .literal]
  | .loop => [identifier, op .isIn, nt .filtered]
  | .modifiedLoop => [identifier, op .isIn, nt .filtered, nt .modifierMore]
  | .modifierOne => [nt .modifier]
  | .modifierAdd => [nt .modifierMore, nt .modifier]
  | .flagModifier => [identifier]
  | .valuedModifier => [keyword, nt .primary]
  | .alternativesNone => []
  | .alternativesOne => [nt .cond]
  | .alternativesSome => [nt .cond, nt .alternativeMore]
  | .alternativeOneComma => [op .comma, nt .cond]
  | .alternativeOne => [nt .cond]
  | .alternativeAddComma => [nt .alternativeMore, op .comma, nt .cond]
  | .alternativeAdd => [nt .alternativeMore, nt .cond]
  | .cond => [nt .conj]
  | .or => [nt .cond, op .or, nt .conj]
  | .conj => [nt .rel]
  | .and => [nt .conj, op .and, nt .rel]
  | .rel => [nt .filtered]
  | .compare r => [nt .filtered, op (relationOperator r), nt .filtered]
  | .filtered => [nt .primary]
  | .filterCall => [nt .filtered, op .pipe, identifier]
  | .filterCallArguments => [nt .filtered, op .pipe, keyword, nt .arguments]
  | .argumentsOne => [nt .primary]
  | .argumentsSome => [nt .primary, nt .argumentMore]
  | .argumentOne => [op .comma, nt .primary]
  | .argumentAdd => [nt .argumentMore, op .comma, nt .primary]
  | .literal => [.terminal .literal]
  | .var => [identifier]
  | .property => [nt .primary, .terminal .property]
  | .index => [nt .primary, op .lsqb, nt .cond, op .rsqb]
  | .parenthesized => [op .lpar, nt .cond, op .rpar]
  | .range => [op .lpar, nt .cond, op .dotdot, nt .cond, op .rpar]

/-! ## Section 3: What productions build -/

/-- A modifier without a value. -/
def flagModifier (name : String) : Except Malformed Modifier :=
  if name = "reversed" then .ok .reversed else .error (.undefinedModifier name)

/-- A modifier with a value. -/
def valuedModifier (name : String) (count : Expr) : Except Malformed Modifier :=
  match name with
  | "cols" => .ok (.cols count)
  | "limit" => .ok (.limit count)
  | "offset" => .ok (.offset count)
  | _ => .error (.undefinedModifier name)

/-- A text in a cycle. -/
def cycleText : Literal → Except Malformed String
  | .text s => .ok s
  | literal => .error (.notText literal)

/-- A cycle from its first text and what follows it. -/
def cycleOf (head : String) : CycleTail → Cycle
  | .grouped first rest => ⟨head, first, rest⟩
  | .plain rest => ⟨"", head, rest⟩

/-- What a production builds from its parts. -/
def Production.build : (p : Production) → Parts p.rhs → Except Malformed (NonterminalPart p.lhs)
  | .root, (s, ()) => .ok s
  | .expression, (e, ()) => .ok (.expression e)
  | .assignment, (_, name, _, e, ()) => .ok (.assignment name e)
  | .cycleStatement, (_, c, ()) => .ok (.cycle c)
  | .loopStatement, (_, h, ()) => .ok (.loop h)
  | .whenStatement, (_, es, ()) => .ok (.when es)
  | .cycle, (head, tail, ()) => .ok (cycleOf head tail)
  | .namedCycle, (group, first, rest, ()) => .ok ⟨group, first, rest⟩
  | .groupedTail, (_, first, rest, ()) => .ok (.grouped first rest)
  | .plainTail, (rest, ()) => .ok (.plain rest)
  | .cycleRestNone, () => .ok []
  | .cycleRestSome, (more, ()) => .ok more
  | .cycleMoreOne, (_, s, ()) => .ok [s]
  | .cycleMoreAdd, (more, _, s, ()) => .ok (more ++ [s])
  | .cycleText, (value, ()) => Grammar.cycleText value
  | .loop, (name, _, source, ()) => .ok (.of name source [])
  | .modifiedLoop, (name, _, source, modifiers, ()) => .ok (.of name source modifiers)
  | .modifierOne, (m, ()) => .ok [m]
  | .modifierAdd, (ms, m, ()) => .ok (ms ++ [m])
  | .flagModifier, (name, ()) => Grammar.flagModifier name
  | .valuedModifier, (name, count, ()) => Grammar.valuedModifier name count
  | .alternativesNone, () => .ok []
  | .alternativesOne, (e, ()) => .ok [e]
  | .alternativesSome, (e, es, ()) => .ok (e :: es)
  | .alternativeOneComma, (_, e, ()) => .ok [e]
  | .alternativeOne, (e, ()) => .ok [e]
  | .alternativeAddComma, (es, _, e, ()) => .ok (es ++ [e])
  | .alternativeAdd, (es, e, ()) => .ok (es ++ [e])
  | .cond, (e, ()) => .ok e
  | .or, (a, _, b, ()) => .ok (.or a b)
  | .conj, (e, ()) => .ok e
  | .and, (a, _, b, ()) => .ok (.and a b)
  | .rel, (e, ()) => .ok e
  | .compare r, (a, _, b, ()) => .ok (.compare r a b)
  | .filtered, (e, ()) => .ok e
  | .filterCall, (e, _, name, ()) => .ok (.filter e name [])
  | .filterCallArguments, (e, _, name, args, ()) => .ok (.filter e name args)
  | .argumentsOne, (e, ()) => .ok [e]
  | .argumentsSome, (e, es, ()) => .ok (e :: es)
  | .argumentOne, (_, e, ()) => .ok [e]
  | .argumentAdd, (es, _, e, ()) => .ok (es ++ [e])
  | .literal, (value, ()) => .ok (.literal value)
  | .var, (name, ()) => .ok (.var name)
  | .property, (e, name, ()) => .ok (.property e name)
  | .index, (e, _, key, _, ()) => .ok (.index e key)
  | .parenthesized, (_, e, _, ()) => .ok e
  | .range, (_, low, _, high, _, ()) => .ok (.range low high)

end Stencil.Grammar
