import Stencil.Proofs.Grammar.Exactness
import Stencil.Proofs.Statement.Written
import Stencil.Proofs.Token.Rescan
import Stencil.Statement.Parse

/-! # Parsing undoes writing

    The lexemes of an expression are those of a derivation tree that builds
    the expression.  The tree has the grade of the expression at its root;
    a place for a looser grade takes it as it stands, and a place for a
    tighter one takes it in parentheses.  So whatever way an expression is
    written, it is the expression that is parsed. -/

namespace Stencil

open Grammar

/-! ## Section 1: What lexemes say -/

/-- Do all tokens that say these lexemes have trees with these symbols at
    their roots, which build these parts? -/
def Says (ss : List Symbol) (ls : List Lexeme) (parts : Parts ss) : Prop :=
  ∀ tokens : List Token, tokens.map Token.lexeme = ls →
    ∃ f : Forest ss, f.yield = tokens ∧ f.values = .ok parts

theorem Says.nil : Says [] [] () := by
  intro tokens same
  obtain rfl : tokens = [] := List.map_eq_nil_iff.1 same
  exact ⟨.nil, rfl, rfl⟩

/-- A lexeme in front. -/
theorem Says.lexeme (l : Lexeme) {ss : List Symbol} {ls : List Lexeme} {parts : Parts ss}
    (h : Says ss ls parts) : Says (.terminal l.terminal :: ss) (l :: ls) (lexemePart l, parts) := by
  intro tokens same
  obtain ⟨token, rest, rfl, rfl, later⟩ := List.map_eq_cons_iff.1 same
  obtain ⟨f, yield, values⟩ := h rest later
  refine ⟨.cons (.leaf token) f, ?_, ?_⟩
  · show [token] ++ f.yield = token :: rest
    rw [yield, List.singleton_append]
  · show (f.values >>= fun parts => Except.ok (lexemePart token.lexeme, parts)) = _
    rw [values]
    rfl

/-- Lexemes of one symbol in front. -/
theorem Says.cons {s : Symbol} {part : s.Part} {ls : List Lexeme} (h : Says [s] ls (part, ()))
    {ss : List Symbol} {more : List Lexeme} {parts : Parts ss} (k : Says ss more parts) :
    Says (s :: ss) (ls ++ more) (part, parts) := by
  intro tokens same
  obtain ⟨front, rest, rfl, here, later⟩ := List.map_eq_append_iff.1 same
  obtain ⟨f, yield, values⟩ := h front here
  obtain ⟨g, yields, others⟩ := k rest later
  match f with
  | .cons t .nil =>
    rw [Forest.yield, Forest.yield, List.append_nil] at yield
    refine ⟨.cons t g, ?_, Forest.values_cons.2 ⟨Forest.values_single.1 values, others⟩⟩
    rw [Forest.yield, yield, yields]

/-- A production on top. -/
theorem Says.node (p : Production) {ls : List Lexeme} {parts : Parts p.rhs}
    (h : Says p.rhs ls parts) {part : NonterminalPart p.lhs} (built : p.build parts = .ok part) :
    Says [nt p.lhs] ls (part, ()) := by
  intro tokens same
  obtain ⟨f, yield, values⟩ := h tokens same
  refine ⟨.cons (.node p f) .nil, ?_, Forest.values_single.2 (Tree.value_node.2 ⟨_, values, built⟩)⟩
  rw [Forest.yield, Tree.yield, Forest.yield, List.append_nil, yield]

/-! ## Section 2: Grades -/

/-- Do the lexemes say the expression in a place for this grade? -/
def Grade.Reads (ls : List Lexeme) (e : Expr) : Grade → Prop
  | .disjunction => Says [nt .cond] ls (e, ())
  | .conjunction => Says [nt .conj] ls (e, ())
  | .comparison => Says [nt .rel] ls (e, ())
  | .filtered => Says [nt .filtered] ls (e, ())
  | .primary => Says [nt .primary] ls (e, ())

namespace Grade

variable {ls : List Lexeme} {e : Expr}

/-- A grade as tight as another is that grade or tighter than it. -/
theorem rank_of_ne {own needed : Grade} (tight : needed.rank ≤ own.rank) (other : own ≠ needed) :
    needed.rank + 1 ≤ own.rank := by
  cases own <;> cases needed <;> first | exact absurd rfl other | (revert tight; decide)

variable {own : Grade} (h : own.Reads ls e)

include h

theorem Reads.primary (tight : Grade.primary.rank ≤ own.rank) : Grade.primary.Reads ls e := by
  obtain rfl : own = .primary := by cases own <;> first | rfl | (revert tight; decide)
  exact h

theorem Reads.filtered (tight : Grade.filtered.rank ≤ own.rank) : Grade.filtered.Reads ls e := by
  by_cases same : own = .filtered
  · rwa [same] at h
  · exact @Says.node .filtered ls (e, ()) (h.primary (rank_of_ne tight same)) e rfl

theorem Reads.comparison (tight : Grade.comparison.rank ≤ own.rank) :
    Grade.comparison.Reads ls e := by
  by_cases same : own = .comparison
  · rwa [same] at h
  · exact @Says.node .rel ls (e, ()) (h.filtered (rank_of_ne tight same)) e rfl

theorem Reads.conjunction (tight : Grade.conjunction.rank ≤ own.rank) :
    Grade.conjunction.Reads ls e := by
  by_cases same : own = .conjunction
  · rwa [same] at h
  · exact @Says.node .conj ls (e, ()) (h.comparison (rank_of_ne tight same)) e rfl

/-- A place for the loosest grade takes every expression as it stands. -/
theorem Reads.disjunction : Grade.disjunction.Reads ls e := by
  by_cases same : own = .disjunction
  · rwa [same] at h
  · exact @Says.node .cond ls (e, ()) (h.conjunction (rank_of_ne (Nat.zero_le _) same)) e rfl

/-- A place for a looser grade takes an expression as it stands. -/
theorem Reads.loosen {needed : Grade} (tight : needed.rank ≤ own.rank) : needed.Reads ls e := by
  cases needed with
  | disjunction => exact h.disjunction
  | conjunction => exact h.conjunction tight
  | comparison => exact h.comparison tight
  | filtered => exact h.filtered tight
  | primary => exact h.primary tight

/-- In parentheses every expression is a primary one. -/
theorem Reads.parenthesize :
    Grade.primary.Reads (.operator .lpar :: (ls ++ [.operator .rpar])) e := by
  have inner : Says [nt .cond, op .rpar] (ls ++ [.operator .rpar]) (e, (), ()) :=
    h.disjunction.cons (Says.nil.lexeme (.operator .rpar))
  exact @Says.node .parenthesized _ ((), e, (), ()) (inner.lexeme (.operator .lpar)) e rfl

/-- A place takes an expression of any grade, in parentheses where they are
    needed. -/
theorem Reads.enclose (needed : Grade) :
    needed.Reads (Expr.enclose needed own ls) e := by
  unfold Expr.enclose
  split
  · have primary : needed.rank ≤ Grade.primary.rank := by cases needed <;> decide
    exact h.parenthesize.loosen primary
  · exact h.loosen (by omega)

end Grade

/-! ## Section 3: Expressions -/

namespace Expr

/-- Do the lexemes of the expression say it? -/
def Reads (e : Expr) : Prop :=
  e.grade.Reads e.lexemes e

/-- An expression in a place for a grade. -/
theorem Reads.place {e : Expr} (h : e.Reads) (needed : Grade) :
    needed.Reads (enclose needed e.grade e.lexemes) e :=
  Grade.Reads.enclose h needed

/-- Arguments behind others.  The grammar collects arguments from the left,
    so those collected already are those on the left. -/
theorem says_moreLexemes {args : List Expr} (h : ∀ a ∈ args, Reads a) {ls : List Lexeme}
    {es : List Expr} (collected : Says [nt .argumentMore] ls (es, ())) :
    Says [nt .argumentMore] (ls ++ moreLexemes args) (es ++ args, ()) := by
  induction args generalizing ls es with
  | nil => simpa [moreLexemes] using collected
  | cons a args ih =>
    obtain ⟨here, later⟩ := List.forall_mem_cons.1 h
    have argument : Says [nt .primary] (enclose .primary a.grade a.lexemes) (a, ()) :=
      here.place .primary
    have more : Says [nt .argumentMore, op .comma, nt .primary] _ (es, (), a, ()) :=
      collected.cons (argument.lexeme (.operator .comma))
    have added := ih later (@Says.node .argumentAdd _ (es, (), a, ()) more (es ++ [a]) rfl)
    rw [moreLexemes]
    simpa using added

/-- The arguments of a filter. -/
theorem says_arguments {arg : Expr} {args : List Expr} (h : ∀ a ∈ arg :: args, Reads a) :
    Says [nt .arguments] (enclose .primary arg.grade arg.lexemes ++ moreLexemes args)
      (arg :: args, ()) := by
  obtain ⟨here, later⟩ := List.forall_mem_cons.1 h
  have argument : Says [nt .primary] (enclose .primary arg.grade arg.lexemes) (arg, ()) :=
    here.place .primary
  cases args with
  | nil =>
    rw [moreLexemes, List.append_nil]
    exact @Says.node .argumentsOne _ (arg, ()) argument [arg] rfl
  | cons b args =>
    obtain ⟨next, others⟩ := List.forall_mem_cons.1 later
    have second : Says [nt .primary] (enclose .primary b.grade b.lexemes) (b, ()) :=
      next.place .primary
    have started := @Says.node .argumentOne _ ((), b, ()) (second.lexeme (.operator .comma)) [b] rfl
    have collected := says_moreLexemes others started
    rw [moreLexemes]
    exact @Says.node .argumentsSome _ (arg, b :: args, ()) (argument.cons collected) _ rfl

mutual

/-- The lexemes of an expression say it. -/
theorem reads : ∀ e : Expr, e.Reads
  | .literal value => by
    have leaf : Says [.terminal .literal] _ (value, ()) := Says.nil.lexeme (.literal value)
    unfold Reads
    rw [lexemes]
    exact @Says.node .literal _ (value, ()) leaf _ rfl
  | .var name => by
    have leaf : Says [identifier] _ (name, ()) := Says.nil.lexeme (.identifier name)
    unfold Reads
    rw [lexemes]
    exact @Says.node .var _ (name, ()) leaf _ rfl
  | .property object name => by
    -- an operand of a lower grade than its place stands in parentheses there
    have inner : Says [nt .primary] _ (object, ()) := (reads object).place .primary
    have whole : Says [nt .primary, .terminal .property] _ (object, name, ()) :=
      inner.cons (Says.nil.lexeme (.property name))
    unfold Reads
    rw [lexemes]
    exact @Says.node .property _ (object, name, ()) whole _ rfl
  | .index object key => by
    have inner : Says [nt .primary] _ (object, ()) := (reads object).place .primary
    have bracketed : Says [nt .cond, op .rsqb] _ (key, (), ()) :=
      Says.cons (Grade.Reads.disjunction (reads key)) (Says.nil.lexeme (.operator .rsqb))
    have whole : Says [nt .primary, op .lsqb, nt .cond, op .rsqb] _ (object, (), key, (), ()) :=
      inner.cons (bracketed.lexeme (.operator .lsqb))
    unfold Reads
    rw [lexemes]
    exact @Says.node .index _ (object, (), key, (), ()) whole _ rfl
  | .range low high => by
    have upper : Says [nt .cond, op .rpar] _ (high, (), ()) :=
      Says.cons (Grade.Reads.disjunction (reads high)) (Says.nil.lexeme (.operator .rpar))
    have bounds : Says [nt .cond, op .dotdot, nt .cond, op .rpar] _ (low, (), high, (), ()) :=
      Says.cons (Grade.Reads.disjunction (reads low)) (upper.lexeme (.operator .dotdot))
    unfold Reads
    rw [lexemes]
    exact @Says.node .range _ ((), low, (), high, (), ()) (bounds.lexeme (.operator .lpar)) _ rfl
  | .compare relation left right => by
    have first : Says [nt .filtered] _ (left, ()) := (reads left).place .filtered
    have second : Says [nt .filtered] _ (right, ()) := (reads right).place .filtered
    have whole : Says [nt .filtered, op (relationOperator relation), nt .filtered] _
        (left, (), right, ()) := first.cons (second.lexeme (.operator (relationOperator relation)))
    unfold Reads
    rw [lexemes]
    exact @Says.node (.compare relation) _ (left, (), right, ()) whole _ rfl
  | .and left right => by
    have first : Says [nt .conj] _ (left, ()) := (reads left).place .conjunction
    have second : Says [nt .rel] _ (right, ()) := (reads right).place .comparison
    have whole : Says [nt .conj, op .and, nt .rel] _ (left, (), right, ()) :=
      first.cons (second.lexeme (.operator .and))
    unfold Reads
    rw [lexemes]
    exact @Says.node .and _ (left, (), right, ()) whole _ rfl
  | .or left right => by
    have first : Says [nt .cond] _ (left, ()) := (reads left).place .disjunction
    have second : Says [nt .conj] _ (right, ()) := (reads right).place .conjunction
    have whole : Says [nt .cond, op .or, nt .conj] _ (left, (), right, ()) :=
      first.cons (second.lexeme (.operator .or))
    unfold Reads
    rw [lexemes]
    exact @Says.node .or _ (left, (), right, ()) whole _ rfl
  | .filter receiver name [] => by
    have inner : Says [nt .filtered] _ (receiver, ()) := (reads receiver).place .filtered
    have named : Says [op .pipe, identifier] _ ((), name, ()) :=
      (Says.nil.lexeme (.identifier name)).lexeme (.operator .pipe)
    unfold Reads
    rw [lexemes]
    exact @Says.node .filterCall _ (receiver, (), name, ()) (inner.cons named) _ rfl
  | .filter receiver name (arg :: args) => by
    have inner : Says [nt .filtered] _ (receiver, ()) := (reads receiver).place .filtered
    have called : Says [op .pipe, keyword, nt .arguments] _ ((), name, arg :: args, ()) :=
      ((says_arguments (reads_args (arg :: args))).lexeme (.keyword name)).lexeme (.operator .pipe)
    unfold Reads
    rw [lexemes]
    exact @Says.node .filterCallArguments _ (receiver, (), name, arg :: args, ())
      (inner.cons called) _ rfl

/-- So do those of arguments. -/
theorem reads_args : ∀ args : List Expr, ∀ a ∈ args, Reads a
  | [] => fun _ ha => absurd ha List.not_mem_nil
  | a :: args => List.forall_mem_cons.2 ⟨reads a, reads_args args⟩

end

/-- The statement that a parser makes of tokens that are known.  It is
    said of any parser, so that the tables of this one are not computed. -/
theorem statement_of_tokens {parser : List Token → Except Malformed Statement}
    {tokens : List Token} {s : Statement} (parsed : parser tokens = .ok s) :
    ((.ok tokens : Except Fault (List Token)) >>= fun ts =>
      (parser ts).mapError Fault.malformed) = .ok s := by
  show (parser tokens).mapError Fault.malformed = .ok s
  rw [parsed]
  rfl

/-- However an expression is written, it is what is parsed. -/
theorem parseExpression_written {e : Expr} {source : String} (h : e.IsWritten source) :
    parseExpression source = .ok e := by
  obtain ⟨tokens, scanned, same⟩ := scan_written h
  obtain ⟨f, yield, values⟩ := Grade.Reads.disjunction (reads e) tokens same
  let t : Tree (.nonterminal .start) := .node .expression f
  have value : t.value = .ok (.expression e) := Tree.value_node.2 ⟨_, values, rfl⟩
  -- a list of alternatives starts with a selector
  have other : ¬ ListsAlternatives tokens := by
    intro alternatives
    have free : selected tokens = none := yield ▸ selected_of_cond f.describes
    have listed : nextTerminal tokens = .selector .when := alternatives
    rw [selected, listed] at free
    cases free
  have parsed : parseTokens tokens = .ok (.expression e) :=
    (parseTokens_eq_value (t := t) (by rw [Tree.yield, yield]) other).trans value
  have read : parse source = .ok (.expression e) := by
    rw [parse, scanned]
    exact statement_of_tokens parsed
  unfold parseExpression
  rw [read]
  rfl

end Expr

end Stencil
