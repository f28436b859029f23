import Stencil.Number.Double

/-! # Shortest decimal text

    A finite number is written with the fewest significant digits that
    still round to it; among those the decimal nearest to it.  Decimal
    exponents from -4 to 15 are written positionally, with at least one
    digit after the point; others with an exponent of at least two
    digits. -/

namespace Stencil.Double

/-! ## Section 1: The digits -/

/-- A decimal `digits * 10 ^ exponent`. -/
structure Decimal where
  digits : Nat
  exponent : Int
deriving DecidableEq

/-- The decimal as a ratio of natural numbers of units. -/
def Decimal.ratio (d : Decimal) : Nat × Nat :=
  (d.digits * Nat.pow 10 d.exponent.toNat * unitsPerOne, Nat.pow 10 (-d.exponent).toNat)

/-- Does a decimal round to the magnitude `units`?  The numbers that do lie
    between the midpoints to the two neighbours; the midpoints themselves
    count when the last bit of the magnitude is even.  The neighbour below
    a power of two is twice as near.  Distances are in quarter units. -/
def roundsTo (units : Nat) (d : Decimal) : Bool :=
  let k := spacing units
  let below := if units = Nat.pow 2 (52 + k) ∧ 0 < k then Nat.pow 2 k else Nat.pow 2 (k + 1)
  let (num, den) := d.ratio
  let low := (4 * units - below) * den
  let high := (4 * units + Nat.pow 2 (k + 1)) * den
  if (units / Nat.pow 2 k) % 2 = 0 then low ≤ 4 * num && 4 * num ≤ high
  else low < 4 * num && 4 * num < high

/-- The exponent of the leading decimal digit of a positive magnitude. -/
def leadingExponent (units : Nat) : Int :=
  ((Nat.toDigits 10 (units * Nat.pow 10 400 / unitsPerOne)).length : Int) - 401

/-- The decimals just below and just above a magnitude on the grid of
    multiples of `10 ^ exponent`. -/
def gridNeighbours (units : Nat) (exponent : Int) : Decimal × Decimal :=
  let n := units * Nat.pow 10 (-exponent).toNat / (unitsPerOne * Nat.pow 10 exponent.toNat)
  (⟨n, exponent⟩, ⟨n + 1, exponent⟩)

/-- Is the lower of two grid neighbours the nearer one?  A tie goes to the
    even one. -/
def lowerIsNearer (units : Nat) (low : Decimal) : Bool :=
  let (num, den) := low.ratio
  let (step, _) := Decimal.ratio ⟨1, low.exponent⟩
  let twice := 2 * units * den
  let middle := 2 * num + step
  twice < middle || (twice = middle && low.digits % 2 = 0)

/-- The best decimal of the grid that rounds to the magnitude, if any. -/
def onGrid? (units : Nat) (exponent : Int) : Option Decimal :=
  let (low, high) := gridNeighbours units exponent
  match roundsTo units low, roundsTo units high with
  | true, true => some (if lowerIsNearer units low then low else high)
  | true, false => some low
  | false, true => some high
  | false, false => none

/-- The decimal for a positive magnitude: grids of one, two, … seventeen
    digits are tried, and on the last one there is always a hit. -/
def shortest (units : Nat) : Decimal :=
  let lead := leadingExponent units
  ((List.range 17).findSome? fun (n : Nat) => onGrid? units (lead - n)).getD ⟨0, 0⟩

/-! ## Section 2: The text -/

/-- Zeros. -/
def zeroDigits (n : Nat) : List Char :=
  List.replicate n '0'

/-- Least exponent that is written positionally. -/
def positionalFrom : Int := -4

/-- Least exponent that is too large to be written positionally. -/
def positionalBelow : Int := 16

/-- Significant digits and the exponent of the first of them, positionally. -/
def positional (digits : List Char) (exponent : Int) : List Char :=
  if exponent < 0 then
    '0' :: '.' :: zeroDigits (-exponent - 1).toNat ++ digits
  else
    let whole := exponent.toNat + 1
    let fraction := digits.drop whole
    digits.take whole ++ zeroDigits (whole - digits.length) ++
      '.' :: (if fraction.isEmpty then ['0'] else fraction)

/-- Significant digits and the exponent of the first of them, with the
    exponent spelled out. -/
def exponential (digits : List Char) (exponent : Int) : List Char :=
  let mantissa := match digits with
    | d :: e :: rest => d :: '.' :: e :: rest
    | ds => ds
  let power := Nat.toDigits 10 exponent.natAbs
  mantissa ++ ['e', if exponent < 0 then '-' else '+'] ++
    zeroDigits (2 - power.length) ++ power

/-- The text of a finite magnitude. -/
def magnitudeText (units : Nat) : List Char :=
  if units = 0 then ['0', '.', '0']
  else
    let d := shortest units
    let written := Nat.toDigits 10 d.digits
    let exponent := d.exponent + written.length - 1
    let digits := (written.reverse.dropWhile (· = '0')).reverse
    if positionalFrom ≤ exponent ∧ exponent < positionalBelow then positional digits exponent
    else exponential digits exponent

/-- The text of a number. -/
def text : Double → String
  | .finite negative units =>
    String.ofList (if negative then '-' :: magnitudeText units else magnitudeText units)
  | .infinite negative => if negative then "-inf" else "inf"
  | .nan _ => "nan"

end Stencil.Double
