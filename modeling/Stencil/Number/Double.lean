/-! # Binary floating point numbers, exactly

    A finite number of the binary64 format is a whole multiple of 2⁻¹⁰⁷⁴,
    so a sign and a natural number of such units describe it.  Operations
    compute the exact result as a ratio of natural numbers and round it
    once, to the nearest number of the format, a tie to the even one. -/

namespace Stencil

/-- Where a computation stands: the moment of the rendering, and the way to
    it from the outside of an expression, in binary digits behind a one. -/
structure Double.Site where
  moment : Nat
  path : Nat
deriving DecidableEq

/-- Where a result that is not a number comes from.  As numbers no two of
    them are equal; as data, those of one origin are the same. -/
inductive Double.Origin where
  /-- Written in a document. -/
  | constant
  /-- Given by a host, which numbers those that it gives. -/
  | given (index : Nat)
  /-- Computed just now. -/
  | fresh
  /-- Computed at a site. -/
  | computed (site : Double.Site)
deriving DecidableEq

/-- A number of the binary64 format.  The magnitude of a finite one counts
    units of 2⁻¹⁰⁷⁴. -/
inductive Double where
  | finite (negative : Bool) (units : Nat)
  | infinite (negative : Bool)
  | nan (origin : Double.Origin)
deriving DecidableEq

namespace Double

/-! ## Section 1: Sites -/

/-- The outside of an expression that is evaluated at a moment. -/
def Site.outside (moment : Nat) : Site :=
  ⟨moment, 1⟩

/-- The site of the first part of what stands at a site. -/
def Site.first (s : Site) : Site :=
  { s with path := 2 * s.path }

/-- The site of the other parts of what stands at a site. -/
def Site.others (s : Site) : Site :=
  { s with path := 2 * s.path + 1 }

/-! ## Section 2: Rounding -/

/-- How many units make one. -/
@[irreducible] def unitsPerOne : Nat := Nat.pow 2 1074

/-- The least magnitude beyond the finite numbers, in units. -/
@[irreducible] def overflowUnits : Nat := Nat.pow 2 2098

/-- `num / den` rounded to the nearest natural number, a half to the even one. -/
def roundQuotient (num den : Nat) : Nat :=
  let q := num / den
  let twice := 2 * (num % den)
  if twice > den ∨ (twice = den ∧ q % 2 = 1) then q + 1 else q

/-- The distance between neighbouring numbers at a magnitude of `units`, as
    a power of two: magnitudes have at most 53 significant bits. -/
def spacing (units : Nat) : Nat :=
  units.log2 - 52

/-- The magnitude nearest to `num / den` units. -/
def roundUnits (num den : Nat) : Nat :=
  let step := Nat.pow 2 (spacing (num / den))
  roundQuotient num (den * step) * step

/-- The number nearest to `num / den` units, with the given sign. -/
def ofRatio (negative : Bool) (num den : Nat) : Double :=
  let units := roundUnits num den
  if units < overflowUnits then .finite negative units else .infinite negative

/-! ## Section 3: Conversions -/

/-- Positive zero. -/
def zero : Double := .finite false 0

/-- The number nearest to an integer; infinite when out of range. -/
def ofInt (n : Int) : Double :=
  ofRatio (n < 0) (n.natAbs * unitsPerOne) 1

/-- The number nearest to `digits * 10 ^ exponent`.  Exponents far outside
    the format's range are decided at once. -/
def ofDecimal (negative : Bool) (digits : Nat) (exponent : Int) : Double :=
  if digits = 0 ∨ exponent < -(400 + digits.log2 : Int) then .finite negative 0
  else if 400 < exponent then .infinite negative
  else ofRatio negative (digits * Nat.pow 10 exponent.toNat * unitsPerOne)
    (Nat.pow 10 (-exponent).toNat)

/-- The units of a finite number, with its sign. -/
def signedUnits (negative : Bool) (units : Nat) : Int :=
  if negative then -units else units

/-- Is the number finite and whole? -/
def isWhole : Double → Bool
  | .finite _ units => units % unitsPerOne = 0
  | _ => false

/-- The integer part of a finite number, rounded toward zero. -/
def truncate? : Double → Option Int
  | .finite negative units => some (signedUnits negative (units / unitsPerOne))
  | _ => none

/-! ## Section 4: Arithmetic -/

/-- The result of an operation that has no value. -/
def undefined : Double := .nan .fresh

/-- The number with the opposite sign. -/
def neg : Double → Double
  | .finite s u => .finite (!s) u
  | .infinite s => .infinite (!s)
  | .nan origin => .nan origin

/-- The sum.  A zero sum is positive, unless both numbers are negative. -/
def add : Double → Double → Double
  | .nan _, _ => undefined
  | _, .nan _ => undefined
  | .infinite s, .infinite t => if s = t then .infinite s else undefined
  | .infinite s, .finite _ _ => .infinite s
  | .finite _ _, .infinite t => .infinite t
  | .finite s u, .finite t v =>
    let sum := signedUnits s u + signedUnits t v
    if sum = 0 then .finite (s && t) 0 else ofRatio (sum < 0) sum.natAbs 1

/-- The difference. -/
def sub (a b : Double) : Double :=
  add a b.neg

/-- The product. -/
def mul : Double → Double → Double
  | .nan _, _ => undefined
  | _, .nan _ => undefined
  | .infinite s, .infinite t => .infinite (s != t)
  | .infinite s, .finite t v => if v = 0 then undefined else .infinite (s != t)
  | .finite s u, .infinite t => if u = 0 then undefined else .infinite (s != t)
  | .finite s u, .finite t v => ofRatio (s != t) (u * v) unitsPerOne

/-- The greatest whole number that is not greater. -/
def floor : Double → Double
  | .finite s u =>
    let whole := u - u % unitsPerOne
    if s && whole != u then ofRatio s (whole + unitsPerOne) 1 else .finite s whole
  | d => d

/-- The quotient of a finite number by a non-zero finite one. -/
def quotient (s : Bool) (u : Nat) (t : Bool) (v : Nat) : Double :=
  ofRatio (s != t) (u * unitsPerOne) v

/-- A number brought to the nearer of the whole numbers around it, the lower
    one if in doubt; a zero takes the sign `negative`. -/
def settle (negative : Bool) (d : Double) : Double :=
  let down := floor d
  match d, sub d down with
  | .finite _ 0, _ => .finite negative 0
  | _, .finite false gap =>
    if gap > unitsPerOne / 2 then add down (.finite false unitsPerOne) else down
  | _, _ => down

/-- The quotient rounded down to a whole number, by a divisor other than
    zero.  What is left of the dividend without the remainder is divided;
    a remainder of the divisor's opposite sign lowers the quotient by one. -/
def floorDiv : Double → Double → Double
  | .finite s u, .finite t v =>
    match ofRatio s (u - u % v) 1 with
    | .finite _ w =>
      let whole := quotient s w t v
      settle (s != t)
        (if u % v ≠ 0 ∧ s ≠ t then sub whole (.finite false unitsPerOne) else whole)
    | d => d
  | .finite s u, .infinite t =>
    if u ≠ 0 ∧ s ≠ t then .finite true unitsPerOne else .finite (s != t) 0
  | _, _ => undefined

end Double

end Stencil
