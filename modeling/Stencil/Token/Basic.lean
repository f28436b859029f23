import Stencil.Number.Shortest
import Stencil.Number.Numeral
import Stencil.Text.Quoted

/-! # Tokens

    The tokens of the expressions in a template: literals, names in three
    roles, the selectors that choose the form of a statement, and
    operators.  The grammar sees of a token only its terminal. -/

namespace Stencil

/-! ## Section 1: Literals -/

/-- A value written in the source. -/
inductive Literal where
  | nil
  | bool (b : Bool)
  | int (n : Int)
  | float (d : Double)
  | text (s : String)
deriving DecidableEq

/-- A literal as messages show it. -/
def Literal.display : Literal → String
  | .nil => "None"
  | .bool b => if b then "True" else "False"
  | .int n => Numeral.text n
  | .float d => d.text
  | .text s => Text.quote s

/-! ## Section 2: Terminals -/

/-- The statement forms that a selector in front of the source chooses. -/
inductive Selector where
  | assign
  | cycle
  | loop
  | when
deriving DecidableEq

/-- Punctuation and the words that act as operators. -/
inductive Operator where
  | eq
  | neq
  | ge
  | le
  | lt
  | gt
  | dot
  | pipe
  | semicolon
  | equal
  | colon
  | comma
  | lpar
  | rpar
  | lsqb
  | rsqb
  | dotdot
  | and
  | or
  | contains
  | isIn
deriving DecidableEq

/-- What the grammar sees of a token. -/
inductive Terminal where
  | literal
  | identifier
  | keyword
  | property
  | selector (s : Selector)
  | operator (o : Operator)
  | endOfInput
deriving DecidableEq

/-- The word after the percent sign of a selector. -/
def Selector.word : Selector → String
  | .assign => "assign"
  | .cycle => "cycle"
  | .loop => "loop"
  | .when => "when"

/-- All selectors. -/
def Selector.all : List Selector :=
  [.assign, .cycle, .loop, .when]

/-- How an operator is spelled; the other spelling of inequality is `<>`. -/
def Operator.spelling : Operator → String
  | .eq => "=="
  | .neq => "!="
  | .ge => ">="
  | .le => "<="
  | .lt => "<"
  | .gt => ">"
  | .dot => "."
  | .pipe => "|"
  | .semicolon => ";"
  | .equal => "="
  | .colon => ":"
  | .comma => ","
  | .lpar => "("
  | .rpar => ")"
  | .lsqb => "["
  | .rsqb => "]"
  | .dotdot => ".."
  | .and => "and"
  | .or => "or"
  | .contains => "contains"
  | .isIn => "in"

/-- How messages about what was expected speak of a terminal. -/
def Terminal.describe : Terminal → String
  | .literal => "literal"
  | .identifier => "identifier"
  | .keyword => "keyword"
  | .property => "property"
  | .selector .assign => "assignment"
  | .selector .cycle => "cycle"
  | .selector .loop => "loop"
  | .selector .when => "when"
  | .operator o => "'" ++ o.spelling ++ "'"
  | .endOfInput => "end of input"

/-- The name of a terminal in the debug log. -/
def Terminal.name : Terminal → String
  | .literal => "LITERAL"
  | .identifier => "IDENTIFIER"
  | .keyword => "KEYWORD"
  | .property => "PROPERTY"
  | .selector .assign => "_ASSIGN"
  | .selector .cycle => "_CYCLE"
  | .selector .loop => "_LOOP"
  | .selector .when => "_WHEN"
  | .operator .eq => "_EQ"
  | .operator .neq => "_NEQ"
  | .operator .ge => "_GE"
  | .operator .le => "_LE"
  | .operator .lt => "_LT"
  | .operator .gt => "_GT"
  | .operator .dot => "_DOT"
  | .operator .pipe => "_PIPE"
  | .operator .semicolon => "_SEMICOLON"
  | .operator .equal => "_EQUAL"
  | .operator .colon => "_COLON"
  | .operator .comma => "_COMMA"
  | .operator .lpar => "_LPAR"
  | .operator .rpar => "_RPAR"
  | .operator .lsqb => "_LSQB"
  | .operator .rsqb => "_RSQB"
  | .operator .dotdot => "_DOTDOT"
  | .operator .and => "_AND"
  | .operator .or => "_OR"
  | .operator .contains => "_CONTAINS"
  | .operator .isIn => "_IN"
  | .endOfInput => "$END"

/-! ## Section 3: Tokens -/

/-- What a token says. -/
inductive Lexeme where
  | literal (value : Literal)
  | identifier (name : String)
  | keyword (name : String)
  | property (name : String)
  | selector (s : Selector)
  | operator (o : Operator)
deriving DecidableEq

/-- A token: what it says, where it starts, and the text it was read from. -/
structure Token where
  lexeme : Lexeme
  start : Nat
  text : String
deriving DecidableEq

/-- The terminal of a lexeme. -/
def Lexeme.terminal : Lexeme → Terminal
  | .literal _ => .literal
  | .identifier _ => .identifier
  | .keyword _ => .keyword
  | .property _ => .property
  | .selector s => .selector s
  | .operator o => .operator o

/-- The terminal of a token. -/
def Token.terminal (t : Token) : Terminal :=
  t.lexeme.terminal

/-- The datum of a token: a literal's value, a name, or the text itself. -/
def Token.value (t : Token) : Literal :=
  match t.lexeme with
  | .literal value => value
  | .identifier name | .keyword name | .property name => .text name
  | .selector _ | .operator _ => .text t.text

/-- How messages speak of an unexpected token. -/
def Lexeme.describe : Lexeme → String
  | .literal value => "literal " ++ value.display
  | .identifier name => "identifier " ++ Text.quote name
  | .keyword name => "keyword " ++ Text.quote name
  | .property name => "property " ++ Text.quote name
  | .selector s => (Terminal.selector s).describe
  | .operator o => (Terminal.operator o).describe

/-- The column of a token, counted from one. -/
def Token.col (t : Token) : Nat :=
  t.start + 1

end Stencil
