import Stencil.Grammar.Run
import Stencil.Token.Scan

/-! # Parsing statements

    A statement is parsed from its source in two passes: all of it is
    scanned before any of it is parsed, so that a character that starts no
    token goes before every other fault.  A tag's arguments are parsed with
    the selector of their form in front. -/

namespace Stencil

/-- The forms in which arguments are parsed. -/
inductive Form where
  | expression
  | selected (s : Selector)
deriving DecidableEq

/-- Parses a source in whatever form its first token selects. -/
def parse (source : String) : Except Fault Statement := do
  let tokens ← scan source
  (Grammar.parseTokens tokens).mapError .malformed

/-- Parses an expression. -/
def parseExpression (source : String) : Except Fault Expr := do
  match ← parse source with
  | .expression e => return e
  | _ => throw (.malformed (.notExpression source))

/-- A source with the selector of a form in front. -/
def Form.select (source : String) : Form → String
  | .expression => source
  | .selected s => "%" ++ s.word ++ " " ++ source

/-- Parses a source in the given form. -/
def parseForm (form : Form) (source : String) : Except Fault Statement :=
  match form with
  | .expression => (parseExpression source).map .expression
  | .selected s => parse ((Form.selected s).select source)

end Stencil
