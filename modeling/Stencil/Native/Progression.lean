/-! # Arithmetic progressions

    A range of integers: every `step`-th integer from `start` on, up to but
    not including `stop`.  Counting, membership, slicing and reversal are
    arithmetic, so that a range with very many members costs nothing until
    its members are listed. -/

namespace Stencil

/-- The integers from `start` on by `step`, before `stop` is reached. -/
structure Progression where
  start : Int
  stop : Int
  step : Int
  step_ne_zero : step ≠ 0
deriving DecidableEq

namespace Progression

/-! ## Section 1: Members -/

/-- All integers from `low` to `high`, both included; none if `high < low`. -/
def between (low high : Int) : Progression :=
  ⟨low, high + 1, 1, by decide⟩

/-- How many members there are. -/
def length (r : Progression) : Nat :=
  if 0 < r.step then
    if r.start < r.stop then ((r.stop - r.start - 1) / r.step + 1).toNat else 0
  else
    if r.stop < r.start then ((r.start - r.stop - 1) / (-r.step) + 1).toNat else 0

/-- The member at a position. -/
def get (r : Progression) (i : Nat) : Int :=
  r.start + i * r.step

/-- The members in order. -/
def members (r : Progression) : List Int :=
  (List.range r.length).map r.get

/-- Is `n` a member? -/
def mem (r : Progression) (n : Int) : Bool :=
  (n - r.start) % r.step = 0 &&
    (if 0 < r.step then r.start ≤ n && n < r.stop else n ≤ r.start && r.stop < n)

/-- Do two progressions have the same members in the same order? -/
def same (r s : Progression) : Bool :=
  r.length = s.length &&
    (r.length = 0 || (r.start = s.start && (r.length = 1 || r.step = s.step)))

/-! ## Section 2: Slices -/

/-- Without the first `n` members. -/
def drop (r : Progression) (n : Nat) : Progression :=
  ⟨r.get (min n r.length), r.get r.length, r.step, r.step_ne_zero⟩

/-- The first `n` members only. -/
def take (r : Progression) (n : Nat) : Progression :=
  ⟨r.start, r.get (min n r.length), r.step, r.step_ne_zero⟩

/-- The members in the opposite order. -/
def reverse (r : Progression) : Progression :=
  ⟨r.start + (r.length - 1 : Int) * r.step, r.start - r.step, -r.step,
    by have := r.step_ne_zero; omega⟩

end Progression

end Stencil
