import Stencil.Statement.Eval

/-! # The items of a loop

    What a loop walks along: its source without the first `offset` members,
    of those the first `limit`, and of those all in the opposite order if
    the loop is reversed.  The order of the modifiers in the header does
    not matter.  Ranges are not listed before their items are counted. -/

namespace Stencil

/-! ## Section 1: Slices of a source -/

namespace Value.Source

/-- Without the first `n` members. -/
def drop : Source → Nat → Source
  | items ns, n => items (ns.drop n)
  | range r, n => range (r.drop n)

/-- The first `n` members. -/
def take : Source → Nat → Source
  | items ns, n => items (ns.take n)
  | range r, n => range (r.take n)

/-- The members in the opposite order. -/
def reverse : Source → Source
  | items ns => items ns.reverse
  | range r => range r.reverse

/-- The number of members. -/
def count : Source → Except Fault Nat
  | items ns => .ok ns.length
  | range r => r.count

/-- The members as values. -/
def values : Source → Except Fault (List Value)
  | items ns => wrapAll ns
  | range r => .ok (r.members.map (ofInt ·))

end Value.Source

/-! ## Section 2: Modifiers -/

/-- A count given by a modifier; negative counts are zero. -/
def modifierCount (filters : Registry) (names : Names) (name : String) :
    Option Expr → Except Fault (Option Nat)
  | none => .ok none
  | some e => do
    let v ← e.eval filters names
    match v.toInt with
    | .ok n => return some n.toNat
    | .error (.evaluation cause) => throw (.evaluation (.modifier name cause))
    | .error fault => throw fault

namespace LoopHeader

/-- What the loop walks along. -/
def walked (filters : Registry) (names : Names) (h : LoopHeader) : Except Fault Value.Source := do
  let v ← h.source.eval filters names
  let all ← v.source
  let offset ← modifierCount filters names "offset" h.offset
  let later := match offset with
    | none | some 0 => all
    | some n => all.drop n
  let limit ← modifierCount filters names "limit" h.limit
  let kept := match limit with
    | none => later
    | some n => later.take n
  return if h.reversed then kept.reverse else kept

/-- The items of the loop. -/
def items (filters : Registry) (names : Names) (h : LoopHeader) : Except Fault (List Value) := do
  let walked ← h.walked filters names
  walked.values

end LoopHeader

end Stencil
