import Stencil.Filter.Standard
import Stencil.Loop.Run

/-! # Cycles

    Each execution of a cycle gives the next of its texts, and starts over
    at their end.  Executions are counted in the innermost counters, which
    every loop starts anew: by the name of the cycle's group, or by all of
    its texts if it has none. -/

namespace Stencil

/-- What the executions of a cycle are counted by. -/
def Cycle.key (c : Cycle) : Native :=
  if c.group = "" then .list (c.values.map .text) else .text c.group

/-- One more than a count. -/
def Native.successor (count : Native) : Except OperandFault Native :=
  match count.number? with
  | some (.int n) => .ok (.int (n + 1))
  | some (.float d) => .ok (.float (d.add (.ofInt 1)))
  | none =>
    match count with
    | .text _ | .list _ | .bytes _ => .error (.notJoinable count.typeName "int")
    | n => .error (.unsupported "+" n.typeName "int")

/-- The text that a cycle gives after a number of executions. -/
def Cycle.at (c : Cycle) (count : Native) : Except OperandFault String :=
  match count.number? with
  | some (.int n) => .ok (c.values.getD (n % c.values.length).toNat c.first)
  | _ => .error (.badIndex "tuple" count.typeName)

/-- The counters of cycles at hand. -/
def Scope.counters (s : Scope) : Except Fault (List (Native × Native)) :=
  match s.note? countersNote with
  | none | some .nil => .error (.stray .cycle)
  | some (.dict counters) => .ok counters
  | some note => .error (.operand (.noAttribute note.typeName "get"))

/-- Counts one more execution of a cycle, and gives its next text. -/
def runCycle (c : Cycle) : Render String := do
  let counters ← Render.lift (← get).scope.counters
  let count := (Native.lookup? counters c.key).getD (.int 0)
  let next ← Render.lift (count.successor.mapError .operand)
  modify fun r =>
    { r with scope := r.scope.putNote countersNote (.dict (Native.store counters c.key next)) }
  Render.lift ((c.at count).mapError .operand)

end Stencil
