import Stencil.Native.Calendar
import Stencil.OperandFault

/-! # Faults of documents

    Why a text is no document of a data format: it does not follow the
    format's rules, or one of its scalars has the form of a number, a date
    or a character that does not exist. -/

namespace Stencil

/-- The causes.  Malformed texts have no message of their own. -/
inductive DocumentFault where
  | malformed
  /-- A numeral that cannot be read. -/
  | numeral (cause : Numeral.Fault)
  /-- A numeral of a base without any digit. -/
  | noDigits (base : Nat)
  /-- A day that does not exist. -/
  | date (cause : Date.Fault)
  /-- An escape for a character beyond the last one. -/
  | noCharacter
  /-- An escape for a character with a code of more than 31 bits. -/
  | codeTooLarge
  /-- A count of sixties with so many parts that the first one's unit is
      beyond all floating point numbers. -/
  | unitTooLarge
deriving DecidableEq

/-- The message of a cause that concerns one scalar. -/
def DocumentFault.message : DocumentFault → String
  | .malformed => ""
  | .numeral cause => OperandFault.numeralMessage cause
  | .noDigits base => "invalid literal for int() with base " ++ toString base ++ ": ''"
  | .date cause => cause.message
  | .noCharacter => "chr() arg not in range(0x110000)"
  | .codeTooLarge => "Python int too large to convert to C int"
  | .unitTooLarge => "int too large to convert to float"

end Stencil
