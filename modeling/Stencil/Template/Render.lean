import Stencil.Filter.Standard
import Stencil.Loop.Cycle
import Stencil.Template.Compile

/-! # Rendering

    Nodes are rendered in order, each leaving pieces of output.  A signal
    ends the nodes around it up to the loop that consumes it.  A failure is
    blamed on the innermost node with a place. -/

namespace Stencil

namespace Node

/-- Renders one of several bodies: the first whose alternatives hold a value
    equal to the subject. -/
def anyEqual (engine : Engine) (subject : Value) : List Expr → Render Bool
  | [] => pure false
  | e :: es => do
    let v ← Render.eval engine e
    if ← Render.lift (v.equal subject) then return true else anyEqual engine subject es

/-- Runs a step and blames its failure on a place, if there is one. -/
def blamingOption {α : Type} (place : Option Place) (step : Render α) : Render α :=
  match place with
  | some p => Render.blaming p step
  | none => step

mutual

/-- Renders a node. -/
def render (engine : Engine) : Node → Render Signal
  | .text s => do
    Render.write s
    return .none
  | .output e _ => do
    let v ← Render.eval engine e
    Render.write (← Render.lift (v.native.print.mapError .operand))
    return .none
  | .assign name e _ => do
    let v ← Render.eval engine e
    modify fun r => { r with scope := r.scope.assign name v.native }
    return .none
  | .cycle c _ => do
    Render.write (← runCycle c)
    return .none
  | .signal s _ => pure s
  | .loop h body alternative _ =>
    runFor engine h (renderAll engine body) (some (renderOption engine alternative))
  | .table h body _ => runTable engine h (renderAll engine body)
  | .branch negated branches alternative _ =>
    renderBranches engine negated (renderOption engine alternative) branches
  | .choice subject clauses alternative _ => do
    let v ← Render.eval engine subject
    renderClauses engine v (renderOption engine alternative) clauses

/-- Renders nodes in order, each at a moment of its own, up to the first
    signal. -/
def renderAll (engine : Engine) : List Node → Render Signal
  | [] => pure .none
  | n :: ns => do
    Render.tick
    let signal ← blamingOption n.place? (render engine n)
    if signal = .none then renderAll engine ns else return signal

/-- Renders nodes that may be absent. -/
def renderOption (engine : Engine) : Option (List Node) → Render Signal
  | none => pure .none
  | some ns => renderAll engine ns

/-- Renders the first body whose condition holds; the first condition may be
    negated. -/
def renderBranches (engine : Engine) (negated : Bool) (alternative : Render Signal) :
    List (Expr × List Node) → Render Signal
  | [] => alternative
  | (condition, body) :: rest => do
    let v ← Render.eval engine condition
    let truth ← Render.lift v.truth
    if truth != negated then renderAll engine body
    else renderBranches engine false alternative rest

/-- Renders the first body that has an alternative equal to the subject. -/
def renderClauses (engine : Engine) (subject : Value) (alternative : Render Signal) :
    List (List Expr × List Node) → Render Signal
  | [] => alternative
  | (alternatives, body) :: rest => do
    if ← anyEqual engine subject alternatives then renderAll engine body
    else renderClauses engine subject alternative rest

end

end Node

/-- Renders a template.  No signal may reach its end. -/
def Template.render (engine : Engine) (t : Template) : Render Unit := do
  let signal ← Node.renderAll engine t.nodes
  if signal = .none then pure () else throw (Fault.stray (.signal signal)).failure

/-- The outcome of a rendering: the output or the failure, the scope as it
    was left, the debug log, and the moment of the end. -/
structure Rendered where
  result : Except Failure String
  scope : Scope
  log : List String
  moment : Nat

/-- Renders a template in a scope. -/
def Template.renderIn (engine : Engine) (t : Template) (scope : Scope) : Rendered :=
  match t.render engine ⟨scope, #[], #[], engine.moment⟩ with
  | .ok _ run => ⟨.ok (String.join run.out.toList), run.scope, run.log.toList, run.moment⟩
  | .error failure run => ⟨.error failure, run.scope, run.log.toList, run.moment⟩

/-- The engine with the standard filters. -/
def Engine.standard (settings : Settings) : Engine :=
  ⟨Filter.standard settings.strictFilters, settings, 0⟩

end Stencil
