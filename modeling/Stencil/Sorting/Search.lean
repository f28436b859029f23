/-! # Searching where a property ends

    A probe tells of an index whether a property holds there; it holds up to
    some index and from there on no more.  Where it ends is found by few
    probes: first in strides that double, then by halving. -/

namespace Stencil.Sorting

variable {ε : Type}

/-- The first index from `low` to `high` without the property.  Of an even
    number of indices, the lower or the upper middle is probed first. -/
def halve (upper : Bool) (probe : Nat → Except ε Bool) (low high : Nat) : Except ε Nat :=
  if low < high then
    let middle := low + (high - low - (if upper then 0 else 1)) / 2
    do
      if ← probe middle then halve upper probe (middle + 1) high
      else halve upper probe low middle
  else .ok low
termination_by high - low

/-- Strides on from an index with the property: the last index that is found
    to have it, and the next that has not, or else the end. -/
def stride (probe : Nat → Except ε Bool) (length last next : Nat) : Except ε (Nat × Nat) :=
  if next < length then do
    if ← probe next then stride probe length next (2 * next + 1)
    else return (last, next)
  else .ok (last, length)
termination_by length - next

/-- How many of the first `length` indices have the property. -/
def gallop (upper : Bool) (probe : Nat → Except ε Bool) (length : Nat) : Except ε Nat := do
  if ← probe 0 then
    let (last, next) ← stride probe length 0 1
    halve upper probe (last + 1) next
  else return 0

/-- A property of items as a probe of the indices of a list. -/
def probeOf {α : Type} (holds : α → Except ε Bool) (items : List α) (i : Nat) : Except ε Bool :=
  match items[i]? with
  | some a => holds a
  | none => .ok false

/-- How many items at the head of a list have a property that ends
    somewhere in it. -/
def leading {α : Type} (upper : Bool) (holds : α → Except ε Bool) (items : List α) :
    Except ε Nat :=
  gallop upper (probeOf holds items) items.length

end Stencil.Sorting
