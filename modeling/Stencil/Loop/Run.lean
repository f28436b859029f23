import Stencil.Log
import Stencil.Loop.Items
import Stencil.Scope.Basic
import Stencil.Settings

/-! # Running loops

    A loop evaluates its source once, and runs its body once for each item,
    in a transient frame that binds the item and the position.  The body
    says how to go on; the loop consumes what it says.  All iterations of
    one run share the counters of the cycles directly inside. -/

namespace Stencil

/-! ## Section 1: The state of a rendering -/

/-- What a rendering is given: the filters, the settings, and the moment at
    which it begins. -/
structure Engine where
  filters : Registry
  settings : Settings
  moment : Nat

/-- What a rendering changes: the scope, the pieces of output so far, the
    entries of the debug log so far, and the moment, which is another one
    for each node. -/
structure Run where
  scope : Scope
  out : Array String
  log : Array String
  moment : Nat

/-- A step of a rendering.  What it has changed stays changed when it
    fails. -/
abbrev Render := EStateM Failure Run

namespace Render

/-- The result of a computation without effects. -/
def lift {α : Type} : Except Fault α → Render α
  | .ok a => pure a
  | .error fault => throw fault.failure

/-- Appends a piece of output. -/
def write (piece : String) : Render Unit :=
  modify fun r => { r with out := r.out.push piece }

/-- Writes an entry of the debug log, if there is one. -/
def debug (engine : Engine) (parts : List (Except OperandFault String)) : Render Unit :=
  if engine.settings.debug then modify fun r => { r with log := r.log.push (Log.entry parts) }
  else pure ()

/-- Goes on to the next moment. -/
def tick : Render Unit :=
  modify fun r => { r with moment := r.moment + 1 }

/-- Runs a step inside one more frame, which is gone afterwards, however the
    step ends. -/
def inFrame {α : Type} (frame : Frame) (step : Render α) : Render α :=
  fun run =>
    match step { run with scope := .child frame run.scope } with
    | .ok a run => .ok a { run with scope := run.scope.leave }
    | .error failure run => .error failure { run with scope := run.scope.leave }

/-- Blames a place for the failure of a step, unless one is blamed. -/
def blaming {α : Type} (place : Place) (step : Render α) : Render α :=
  fun run =>
    match step run with
    | .ok a run => .ok a run
    | .error failure run => .error (failure.blame place) run

/-- Tells the debug log about the undefined filters of an expression. -/
def logPassedThrough (engine : Engine) (names : List String) : Render Unit :=
  match names with
  | [] => pure ()
  | name :: rest => do
    debug engine [.ok ("filter " ++ name ++ " undefined; passing receiver through")]
    logPassedThrough engine rest

/-- Evaluates expressions that stand in a tag, with the filters and the
    scope at hand: `value` computes what is needed of them, and `names` the
    undefined filters on the way. -/
def evaluate {α : Type} (engine : Engine) (value : Registry → Names → Except Fault α)
    (names : Registry → Names → List String) : Render α := do
  let run ← get
  let filters := engine.filters.atMoment run.moment
  if engine.settings.debug then logPassedThrough engine (names filters run.scope.names)
  lift (value filters run.scope.names)

/-- Evaluates an expression. -/
def eval (engine : Engine) (e : Expr) : Render Value :=
  evaluate engine (fun filters names => e.eval filters names)
    (fun filters names => e.passedThrough filters names)

end Render

/-! ## Section 2: The parts of a loop -/

/-- The undefined filters that a modifier comes to. -/
def passedThroughOption (filters : Registry) (names : Names) : Option Expr → List String
  | none => []
  | some e => e.passedThrough filters names

/-- The undefined filters that the header of a loop comes to. -/
def LoopHeader.passedThrough (filters : Registry) (names : Names) (h : LoopHeader) :
    List String :=
  h.source.passedThrough filters names ++
    Expr.following (h.source.eval filters names >>= Value.source) (fun _ => true)
      (passedThroughOption filters names h.offset ++
        Expr.following (modifierCount filters names "offset" h.offset) (fun _ => true)
          (passedThroughOption filters names h.limit))

/-- What a loop walks along, in the scope at hand. -/
def LoopHeader.start (engine : Engine) (h : LoopHeader) : Render Value.Source :=
  Render.evaluate engine (fun filters names => h.walked filters names)
    (fun filters names => h.passedThrough filters names)

/-- Refuses a loop with too many items. -/
def checkLimit (engine : Engine) (tag : String) (count : Nat) : Except Fault Unit :=
  if Settings.allows engine.settings.maxLoopItems count then .ok ()
  else .error (.evaluation (.limitExceeded tag))

/-- The frame of one iteration. -/
def iterationFrame (item : String) (v : Value) (position : LoopPosition) : Frame :=
  .passing (.of [(item, v.native), ("forloop", .loop position)])

/-! ## Section 3: Loops over items -/

/-- Runs the body for the items from the `i`-th on, until it asks to stop. -/
def forItems (engine : Engine) (item : String) (length : Nat) (body : Render Signal) :
    Nat → List Value → Render Unit
  | _, [] => pure ()
  | i, v :: vs => do
    let signal ← Render.inFrame (iterationFrame item v ⟨i, length, none⟩) body
    if signal = .stop then
      Render.debug engine [.ok ("for " ++ item ++ " break at " ++ toString i)]
    else forItems engine item length body (i + 1) vs

/-- The items of a loop, unless there are too many. -/
def forValues (engine : Engine) (h : LoopHeader) : Render (List Value) := do
  let walked ← h.start engine
  let length ← Render.lift walked.count
  Render.debug engine [.ok ("for " ++ h.item ++ " length " ++ toString length)]
  Render.lift (checkLimit engine "for" length)
  Render.lift walked.values

/-- Runs a loop.  Without items, the alternative body runs in its place, and
    what that says is passed on. -/
def runFor (engine : Engine) (h : LoopHeader) (body : Render Signal)
    (alternative : Option (Render Signal)) : Render Signal := do
  match ← forValues engine h with
  | [] => alternative.getD (pure .none)
  | v :: vs => do
    Render.inFrame .loop (forItems engine h.item (v :: vs).length body 0 (v :: vs))
    return .none

/-! ## Section 4: Loops that fill a table -/

/-- The number of columns of a table with `length` cells: the given one, or
    enough for a single row. -/
def columns (given : Option Nat) (length : Nat) : Nat :=
  match given with
  | none | some 0 => max length 1
  | some n => n

/-- Opens a cell, and a row in front of it where one begins. -/
def openCell (position : LoopPosition) (cols : Int) : Render Unit := do
  if position.col0 cols = 0 then
    if position.index0 ≠ 0 then Render.write "</tr>\n"
    Render.write ("<tr class=\"row" ++ Numeral.text (position.row cols) ++ "\">")
  Render.write ("<td class=\"col" ++ Numeral.text (position.col0 cols + 1) ++ "\">")

/-- Runs the body for the items from the `i`-th on, each in a cell. -/
def tableItems (item : String) (length cols : Nat) (body : Render Signal) :
    Nat → List Value → Render Unit
  | _, [] => pure ()
  | i, v :: vs => do
    let position : LoopPosition := ⟨i, length, some cols⟩
    openCell position cols
    let signal ← Render.inFrame (iterationFrame item v position) body
    Render.write "</td>"
    if signal = .stop then pure ()
    else tableItems item length cols body (i + 1) vs

/-- Runs a loop that fills a table.  Without a positive number of columns,
    all cells are in one row. -/
def runTable (engine : Engine) (h : LoopHeader) (body : Render Signal) : Render Signal := do
  let walked ← h.start engine
  Render.lift (checkLimit engine "tablerow" (← Render.lift walked.count))
  let items ← Render.lift walked.values
  let length := items.length
  let given ← Render.evaluate engine
    (fun filters names => modifierCount filters names "cols" h.cols)
    (fun filters names => passedThroughOption filters names h.cols)
  let cols := columns given length
  Render.debug engine
    [.ok ("tablerow " ++ h.item ++ " length " ++ toString length ++ " cols"),
      Native.writeInt (Int.ofNat cols)]
  match items with
  | [] => return .none
  | items => do
    Render.inFrame .loop (tableItems h.item length cols body 0 items)
    Render.write "</tr>"
    return .none

end Stencil
