import Stencil.Sorting.Search

/-! # Merging sorted runs

    Two neighbouring runs are merged from one of their ends.  The items
    that are given out are compared one by one until one run wins often in
    a row; from then on whole stretches are looked for, as long as they are
    long.  How eagerly stretches are looked for is adapted on the way and
    kept from one merge to the next.  Of equal items, those of the first run
    come first. -/

namespace Stencil.Sorting

variable {α ε : Type}

/-! ## Section 1: Ends -/

/-- The end of two runs that a merge starts at. -/
inductive End where
  /-- At the least items; the second run's leave first. -/
  | front
  /-- At the greatest items; the first run's leave first. -/
  | back
deriving DecidableEq

namespace End

/-- The items in the order in which they leave at an end; also the way back. -/
def orient (e : End) (items : List α) : List α :=
  match e with
  | front => items
  | back => items.reverse

/-- Does an item of the first run leave before one of the second run? -/
def firstLeaves (e : End) (before : α → α → Except ε Bool) (a b : α) : Except ε Bool := do
  let swapped ← before b a
  return match e with
    | front => !swapped
    | back => swapped

/-- Is what is left of the runs in order already?  The run that is shorter
    at the start has one item left, or the other has none. -/
def isSettled (e : End) (as bs : List α) : Bool :=
  match e, as, bs with
  | front, [], _ => true
  | front, [_], _ => true
  | front, _, [] => true
  | back, _, [] => true
  | back, _, [_] => true
  | back, [], _ => true
  | _, _, _ => false

/-- The order in which what is left leaves, once it is settled. -/
def rest (e : End) (as bs : List α) : List α :=
  match e with
  | front => bs ++ as
  | back => as ++ bs

/-- Is the upper middle probed first?  From the back it is the lower one. -/
def upper (e : End) : Bool :=
  e = front

end End

/-! ## Section 2: Giving out -/

/-- How long a stretch has to be for another one to be looked for, and how
    often a run has to win in a row at first. -/
def leastStretch : Nat := 7

/-- What a merge gives: the items in the order in which they left, and how
    often a run has to win in a row from now on. -/
structure Merged (α : Type) where
  items : List α
  patience : Nat

/-- The outcome of a merge with nothing more to compare: `out` has left
    already, the latest first. -/
def settled (e : End) (patience : Nat) (out as bs : List α) : Merged α :=
  ⟨out.reverse ++ e.rest as bs, patience⟩

mutual

/-- Gives out one by one, with the number of times that either run has won
    in a row. -/
def alternate (e : End) (before : α → α → Except ε Bool) (patience wonFirst wonSecond : Nat)
    (out as bs : List α) : Except ε (Merged α) :=
  if e.isSettled as bs then .ok (settled e patience out as bs)
  else if patience ≤ wonFirst ∨ patience ≤ wonSecond then
    inStretches e before (patience + 1) out as bs
  else
    match as, bs with
    | a :: as, b :: bs => do
      if ← e.firstLeaves before a b then
        alternate e before patience (wonFirst + 1) 0 (a :: out) as (b :: bs)
      else
        alternate e before patience 0 (wonSecond + 1) (b :: out) (a :: as) bs
    | as, bs => .ok (settled e patience out as bs)
termination_by 2 * (as.length + bs.length) + 1

/-- Gives out a stretch of the first run and an item of the second, then the
    other way round, as long as one of the stretches is long. -/
def inStretches (e : End) (before : α → α → Except ε Bool) (patience : Nat)
    (out as bs : List α) : Except ε (Merged α) :=
  match bs with
  | [] => .ok (settled e patience out as [])
  | b :: bs => do
    let patience := if 1 < patience then patience - 1 else patience
    let m ← leading e.upper (fun a => e.firstLeaves before a b) as
    let out := (as.take m).reverse ++ out
    if e.isSettled (as.drop m) (b :: bs) then
      return settled e patience out (as.drop m) (b :: bs)
    else if e.isSettled (as.drop m) bs then
      return settled e patience (b :: out) (as.drop m) bs
    else
      match h : as.drop m with
      | [] => return settled e patience (b :: out) [] bs
      | a :: rest => do
        let n ← leading e.upper (fun b => return !(← e.firstLeaves before a b)) bs
        let out := (bs.take n).reverse ++ b :: out
        if e.isSettled (a :: rest) (bs.drop n) then
          return settled e patience out (a :: rest) (bs.drop n)
        else if e.isSettled rest (bs.drop n) then
          return settled e patience (a :: out) rest (bs.drop n)
        else if leastStretch ≤ m ∨ leastStretch ≤ n then
          inStretches e before patience (a :: out) rest (bs.drop n)
        else
          alternate e before (patience + 1) 0 0 (a :: out) rest (bs.drop n)
termination_by 2 * (as.length + bs.length)
decreasing_by
  all_goals
    have length := congrArg List.length h
    simp only [List.length_drop, List.length_cons] at length ⊢
    omega

end

/-! ## Section 3: Merging -/

/-- Merges from an end, where the item that leaves first is known. -/
def mergeFrom (e : End) (before : α → α → Except ε Bool) (patience : Nat) (as bs : List α) :
    Except ε (Merged α) := do
  let merged ← match e, e.orient as, e.orient bs with
    | .front, as, b :: bs => alternate e before patience 0 0 [b] as bs
    | .back, a :: as, bs => alternate e before patience 0 0 [a] as bs
    | _, as, bs => .ok (settled e patience [] as bs)
  return ⟨e.orient merged.items, merged.patience⟩

/-- Merges two sorted runs.  What does not come after the second run's head
    stays in front, what does not come before the first run's last stays
    behind, and the rest is merged with the shorter part kept aside. -/
def merge (before : α → α → Except ε Bool) (patience : Nat) (as bs : List α) :
    Except ε (Merged α) :=
  match bs with
  | [] => .ok ⟨as, patience⟩
  | b :: _ => do
    let m ← leading End.front.upper (fun a => return !(← before b a)) as
    match (as.drop m).getLast? with
    | none => return ⟨as ++ bs, patience⟩
    | some a => do
      let n ← leading End.back.upper (fun b => return !(← before b a)) bs.reverse
      let kept := bs.length - n
      if kept = 0 then return ⟨as ++ bs, patience⟩
      else
        let e : End := if (as.drop m).length ≤ kept then .front else .back
        let merged ← mergeFrom e before patience (as.drop m) (bs.take kept)
        return ⟨as.take m ++ merged.items ++ bs.drop kept, merged.patience⟩

end Stencil.Sorting
