import Stencil.Native.Basic
import Stencil.OperandFault
import Stencil.Token.Basic

/-! # Faults

    Everything that can go wrong between a template's source and its
    output, by cause, with the message of each cause.  A failure is a fault
    together with the place in the template that it is blamed on. -/

namespace Stencil

/-! ## Section 1: Causes -/

/-- What a loop body or branch asks of the loop around it. -/
inductive Signal where
  | none
  | next
  | stop
deriving DecidableEq

/-- Why a source cannot be parsed. -/
inductive Malformed where
  /-- No token starts with this character. -/
  | unexpectedCharacter (c : Char) (source : String)
  /-- No statement goes on with this token, or ends here. -/
  | unexpectedToken (found : Option Lexeme) (expected : List Terminal)
  /-- A statement of another form stands where an expression is needed. -/
  | notExpression (source : String)
  /-- A cycle lists a literal that is no text. -/
  | notText (literal : Literal)
  /-- A loop modifier that does not exist. -/
  | undefinedModifier (name : String)
  /-- A block without its end tag. -/
  | unterminated (tag : String)
  /-- Arguments for a tag that takes none. -/
  | noArguments (tag : String)
  /-- A clause or end tag outside its block. -/
  | unexpectedTag (tag : String)
  /-- A tag that does not exist. -/
  | undefinedTag (tag : String)

/-- Tags that need a loop around them. -/
inductive Stray where
  /-- A cycle outside every loop. -/
  | cycle
  /-- A signal that no loop consumed. -/
  | signal (s : Signal)

/-- Why an expression or loop has no value. -/
inductive EvaluationFault where
  /-- A value of a kind that has no integer. -/
  | notInteger (kind : String) (shown : String)
  /-- A number that is not whole. -/
  | notWhole (shown : String)
  /-- Native data that is no template value. -/
  | foreign (type : String)
  /-- A loop modifier whose value has no integer. -/
  | modifier (name : String) (cause : EvaluationFault)
  /-- A loop with too many items. -/
  | limitExceeded (tag : String)
  /-- A filter that failed on its operands. -/
  | filterFailed (name : String) (cause : OperandFault)

/-- The place that a failure is blamed on: the numbers of a line and a
    column, and the text there.  A host may give anything as a number, or
    nil. -/
structure Place where
  line : Native
  col : Native
  text : String

/-- A fault.  The last two end a rendering without a report. -/
inductive Fault where
  | malformed (cause : Malformed)
  | stray (cause : Stray)
  | evaluation (cause : EvaluationFault)
  | undefinedFilter (name : String)
  /-- Raised by a host filter, which may name a place itself. -/
  | custom (message : String) (place : Option Place)
  /-- An operation on native data failed outside a filter. -/
  | operand (cause : OperandFault)
  /-- Raised by a host filter, and beyond the reach of every handler. -/
  | external (message : String)

/-! ## Section 2: Messages -/

/-- What was expected, in order and in braces; selectors are never typed by
    an author, so they are left out. -/
def expectedText (expected : List Terminal) : String :=
  let names := (expected.filter fun t => !(t matches .selector _)).map Terminal.describe
  "\x7b" ++ String.intercalate ", " (names.mergeSort (· ≤ ·)) ++ "\x7d"

/-- The message of a cause. -/
def Malformed.message : Malformed → String
  | .unexpectedCharacter c source =>
    "unexpected character " ++ Text.quote (String.singleton c) ++ " in " ++ Text.quote source
  | .unexpectedToken found expected =>
    "parse error: unexpected " ++ (found.map Lexeme.describe).getD Terminal.endOfInput.describe ++
      ", expecting " ++ expectedText expected
  | .notExpression source => "parse error: expected an expression in " ++ Text.quote source
  | .notText literal => "expected a string for " ++ literal.display
  | .undefinedModifier name => "undefined loop modifier " ++ Text.quote name
  | .unterminated tag => Text.quote tag ++ " tag not terminated"
  | .noArguments tag => Text.quote tag ++ " tag takes no arguments"
  | .unexpectedTag tag => "unexpected " ++ Text.quote tag ++ " tag"
  | .undefinedTag tag => "undefined tag " ++ Text.quote tag

/-- The message of a cause. -/
def Stray.message : Stray → String
  | .cycle => "cycle must be within a forloop"
  | .signal .stop => "break outside a loop"
  | .signal _ => "continue outside a loop"

/-- The message of a cause. -/
def EvaluationFault.message : EvaluationFault → String
  | .notInteger kind shown => "expected an integer, got " ++ kind ++ " " ++ shown
  | .notWhole shown => "expected an integer, got " ++ shown
  | .foreign type => "cannot use " ++ type ++ " as a template value"
  | .modifier name cause => "loop modifier " ++ name ++ ": " ++ cause.message
  | .limitExceeded tag => tag ++ ": iteration limit exceeded"
  | .filterFailed name cause => "error applying filter " ++ Text.quote name ++ ": " ++ cause.message

/-- The message of a fault. -/
def Fault.message : Fault → String
  | .malformed cause => cause.message
  | .stray cause => cause.message
  | .evaluation cause => cause.message
  | .undefinedFilter name => "undefined filter " ++ Text.quote name
  | .custom message _ => message
  | .operand cause => cause.message
  | .external message => message

/-! ## Section 3: Failures -/

/-- Can the fault be reported to the author of the template? -/
def Fault.reportable : Fault → Bool
  | .operand _ => false
  | .external _ => false
  | _ => true

/-- The place that a fault itself names. -/
def Fault.place? : Fault → Option Place
  | .custom _ place => place
  | _ => none

/-- A fault and the place it is blamed on. -/
structure Failure where
  fault : Fault
  place : Option Place

/-- The failure of a fault that nothing has been blamed for yet. -/
def Fault.failure (f : Fault) : Failure :=
  ⟨f, f.place?⟩

/-- Blames a place for a reportable failure, unless one is blamed already. -/
def Failure.blame (place : Place) (f : Failure) : Failure :=
  if f.fault.reportable && f.place.isNone then { f with place := some place } else f

end Stencil
