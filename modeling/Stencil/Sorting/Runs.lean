import Stencil.Sorting.Merge

/-! # Sorting by runs

    A list is cut into runs that are sorted already, short ones are filled
    up by insertion, and neighbouring runs are merged.  When two runs are
    merged depends on where their middles lie in the whole: those on one
    side of a coarse bisection go first.  The sorting is stable, and the
    first comparison that has no result ends it. -/

namespace Stencil.Sorting

variable {α ε : Type}

/-! ## Section 1: Natural runs -/

/-- Splits off the longest run after `last` in which each item compares with
    the one before it as `descending` tells.  `taken` is what has been split
    off, the latest first. -/
def takeRun (before : α → α → Except ε Bool) (descending : Bool) (taken : List α) (last : α) :
    List α → Except ε (List α × List α)
  | [] => .ok (taken, [])
  | a :: as => do
    if (← before a last) = descending then takeRun before descending (a :: taken) a as
    else return (taken, a :: as)

/-- The run at the head in ascending order, and the remaining items.  Only a
    run that descends strictly is turned around. -/
def headRun (before : α → α → Except ε Bool) : List α → Except ε (List α × List α)
  | a :: b :: rest => do
    let descending ← before b a
    let (taken, rest) ← takeRun before descending [b, a] b rest
    return (if descending then taken else taken.reverse, rest)
  | items => .ok (items, [])

/-! ## Section 2: Insertion -/

/-- Inserts an item behind all that do not come after it. -/
def insert (before : α → α → Except ε Bool) (sorted : List α) (a : α) : Except ε (List α) := do
  let holds (b : α) : Except ε Bool := return !(← before a b)
  let i ← halve true (probeOf holds sorted) 0 sorted.length
  return sorted.take i ++ a :: sorted.drop i

/-- Inserts items one after another. -/
def insertAll (before : α → α → Except ε Bool) (sorted : List α) : List α → Except ε (List α)
  | [] => .ok sorted
  | a :: as => do insertAll before (← insert before sorted a) as

/-- The length that runs are filled up to: the leading six bits of the
    number of items, rounded up. -/
def leastRun (count : Nat) : Nat :=
  if count < 64 then count
  else
    let shift := count.log2 - 5
    let unit := Nat.pow 2 shift
    count / unit + (if count % unit = 0 then 0 else 1)

/-- The run at the head, filled up to at least `least` items. -/
def nextRun (before : α → α → Except ε Bool) (least : Nat) (items : List α) :
    Except ε (List α × List α) := do
  let (run, rest) ← headRun before items
  let missing := least - run.length
  return (← insertAll before run (rest.take missing), rest.drop missing)

/-! ## Section 3: The pile of runs -/

/-- A run on the pile: its items, their number, and the level of the
    boundary behind it. -/
structure Pending (α : Type) where
  items : List α
  count : Nat
  level : Nat

/-- Runs that are sorted and not merged yet, the latest first, and how often
    a run has to win in a row when they are merged. -/
structure Pile (α : Type) where
  runs : List (Pending α)
  patience : Nat

/-- The first binary digit in which `a / total` and `b / total` differ. -/
def firstDifference (total : Nat) : Nat → Nat → Nat → Nat
  | 0, _, _ => 1
  | fuel + 1, a, b =>
    if a / total = b / total then
      firstDifference total fuel (2 * (a % total)) (2 * (b % total)) + 1
    else 1

/-- The level of the boundary between two neighbouring runs, of which the
    first has `start` items in front: the bisection of the whole that parts
    their middles. -/
def levelBetween (total start first second : Nat) : Nat :=
  firstDifference total (total.log2 + 1) (2 * start + first) (2 * start + 2 * first + second)

/-- Merges two neighbours on the pile. -/
def Pending.join (before : α → α → Except ε Bool) (patience : Nat) (first second : Pending α) :
    Except ε (Pending α × Nat) := do
  let merged ← merge before patience first.items second.items
  return (⟨merged.items, first.count + second.count, first.level⟩, merged.patience)

/-- Merges the latest runs while the boundary in front of them has a higher
    level than `level`. -/
def joinAbove (before : α → α → Except ε Bool) (level patience : Nat) :
    List (Pending α) → Except ε (Pile α)
  | second :: first :: rest =>
    if level < first.level then do
      let (joined, patience) ← first.join before patience second
      joinAbove before level patience (joined :: rest)
    else .ok ⟨second :: first :: rest, patience⟩
  | runs => .ok ⟨runs, patience⟩
termination_by runs => runs.length

/-- Puts a run on the pile.  `start` items are in front of it. -/
def Pile.push (before : α → α → Except ε Bool) (total start : Nat) (pile : Pile α)
    (run : List α) : Except ε (Pile α) := do
  let count := run.length
  match pile.runs with
  | [] => return ⟨[⟨run, count, 0⟩], pile.patience⟩
  | last :: _ =>
    let level := levelBetween total (start - last.count) last.count count
    let pile ← joinAbove before level pile.patience pile.runs
    match pile.runs with
    | [] => return ⟨[⟨run, count, 0⟩], pile.patience⟩
    | last :: rest =>
      return ⟨⟨run, count, 0⟩ :: { last with level := level } :: rest, pile.patience⟩

/-- Merges all runs on the pile: the latest two, unless the one before them
    is shorter than the latest. -/
def joinAll (before : α → α → Except ε Bool) (patience : Nat) :
    List (Pending α) → Except ε (List α)
  | [] => .ok []
  | [run] => .ok run.items
  | [second, first] => do
    let (joined, _) ← first.join before patience second
    return joined.items
  | third :: second :: first :: rest =>
    if first.count < third.count then do
      let (joined, patience) ← first.join before patience second
      joinAll before patience (third :: joined :: rest)
    else do
      let (joined, patience) ← second.join before patience third
      joinAll before patience (joined :: first :: rest)
termination_by runs => runs.length

/-! ## Section 4: Sorting -/

/-- Puts the runs of some items on the pile, and merges all of them in the
    end.  `start` items are on the pile already. -/
def sortFrom (before : α → α → Except ε Bool) (total least : Nat) :
    Nat → Nat → Pile α → List α → Except ε (List α)
  | 0, _, pile, _ => joinAll before pile.patience pile.runs
  | _, _, pile, [] => joinAll before pile.patience pile.runs
  | fuel + 1, start, pile, items => do
    let (run, rest) ← nextRun before least items
    let pile ← pile.push before total start run
    sortFrom before total least fuel (start + run.length) pile rest

/-- The items in ascending order. -/
def sort (before : α → α → Except ε Bool) (items : List α) : Except ε (List α) :=
  let total := items.length
  sortFrom before total (leastRun total) total 0 ⟨[], leastStretch⟩ items

end Stencil.Sorting
