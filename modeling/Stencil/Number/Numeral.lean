import Stencil.Number.Double
import Stencil.Text.Blank
import Stencil.Text.Digit

/-! # Numerals

    Reading integers and floating point numbers from text, and writing
    integers.  Decimal digits of every script count as digits, a single
    underscore may stand between two digits, and white space around the
    numeral is dropped, the information separators apart.  Integers of
    more than 4300 digits are neither read nor written. -/

namespace Stencil.Numeral

open Stencil.Text

/-! ## Section 1: What can go wrong -/

/-- Why a numeral cannot be read or written. -/
inductive Fault where
  /-- The text is no integer. -/
  | notInteger (text : String)
  /-- The text is no decimal number. -/
  | notDecimal (text : String)
  /-- An integer text with too many digits. -/
  | tooManyDigits (count : Nat)
  /-- An integer with too many digits to be written. -/
  | tooLong
deriving DecidableEq

/-- The most digits that an integer text may have. -/
def maxDigits : Nat := 4300

/-- The least magnitude that has more than `maxDigits` digits. -/
@[irreducible] def writeLimit : Nat := Nat.pow 10 maxDigits

/-! ## Section 2: Writing -/

/-- The decimal text of an integer. -/
def text (n : Int) : String :=
  if n < 0 then "-" ++ toString n.natAbs else toString n.natAbs

/-- The decimal text of an integer that is not too long. -/
def write (n : Int) : Except Fault String :=
  if n.natAbs < writeLimit then .ok (text n) else .error .tooLong

/-! ## Section 3: Reading -/

/-- The white space around a numeral that is dropped. -/
def isPadding (c : Char) : Bool :=
  isBlank c && !(0x1C ≤ c.toNat && c.toNat ≤ 0x1F)

/-- Drops the padding, and replaces digits of other scripts. -/
def plain (s : String) : List Char :=
  (dropTrailing isPadding (dropLeading isPadding s.toList)).map plainDigit

/-- Splits off a sign; `true` means negative. -/
def splitSign : List Char → Bool × List Char
  | '-' :: cs => (true, cs)
  | '+' :: cs => (false, cs)
  | cs => (false, cs)

/-- The number that some ASCII digits denote. -/
def ofDigits (cs : List Char) : Nat :=
  cs.foldl (fun n c => 10 * n + (c.toNat - 0x30)) 0

/-- Does every underscore stand between two digits?  `afterDigit` tells
    whether a digit stands in front. -/
def underscoresBetween (afterDigit : Bool) : List Char → Bool
  | [] => true
  | '_' :: c :: cs => afterDigit && c.isDigit && underscoresBetween true cs
  | ['_'] => false
  | c :: cs => underscoresBetween c.isDigit cs

/-- Reads an integer. -/
def readInt (s : String) : Except Fault Int :=
  let (negative, body) := splitSign (plain s)
  let run := body.takeWhile fun c => c.isDigit || c = '_'
  let digits := run.filter Char.isDigit
  if !underscoresBetween false run then .error (.notInteger s)
  else if maxDigits < digits.length then .error (.tooManyDigits digits.length)
  else if digits.isEmpty ∨ run.length < body.length then .error (.notInteger s)
  else .ok (if negative then -(ofDigits digits : Int) else ofDigits digits)

/-- The exponent that ends a decimal: nothing, or a mark, a sign and digits. -/
def exponentPart? : List Char → Option Int
  | [] => some 0
  | c :: cs =>
    let (negative, digits) := splitSign cs
    if (c = 'e' ∨ c = 'E') ∧ !digits.isEmpty ∧ digits.all Char.isDigit then
      some (if negative then -(ofDigits digits : Int) else ofDigits digits)
    else none

/-- Reads an unsigned decimal of ASCII digits: at least one digit, with an
    optional point, and an optional exponent. -/
def decimal? (negative : Bool) (cs : List Char) : Option Double :=
  let whole := cs.takeWhile Char.isDigit
  let (fraction, tail) := match cs.dropWhile Char.isDigit with
    | '.' :: rest => (rest.takeWhile Char.isDigit, rest.dropWhile Char.isDigit)
    | rest => ([], rest)
  if whole.isEmpty ∧ fraction.isEmpty then none
  else (exponentPart? tail).map fun exponent =>
    Double.ofDecimal negative (ofDigits (whole ++ fraction)) (exponent - fraction.length)

/-- Reads a decimal number. -/
def readDecimal (s : String) : Except Fault Double :=
  let cs := plain s
  let (negative, body) := splitSign (cs.filter (· ≠ '_'))
  match decimal? negative body with
  | some d => if underscoresBetween false cs then .ok d else .error (.notDecimal s)
  | none => .error (.notDecimal s)

end Stencil.Numeral
