import Stencil.Proofs.Loop.Table

/-! # What happens during a rendering

    The same rendering, with an account of the cycles executed on the way
    and of the loops that they are in.  It changes the state and gives its
    results exactly as the rendering itself does; the account is taken
    beside it, from the states that it goes through. -/

namespace Stencil

/-! ## Section 1: Events -/

/-- Something that happens during a rendering: a cycle is executed, which
    writes pieces of output, or a loop is entered, in whose body some more
    happens. -/
inductive Event where
  | cycle (c : Cycle) (written : List String)
  | entry (inner : List Event)

/-- Is this all that happens directly inside one entry of a loop, at any
    depth of what happens? -/
inductive Event.Entered (inner : List Event) : List Event → Prop
  | here {events : List Event} : .entry inner ∈ events → Entered inner events
  | inside {events outer : List Event} : .entry outer ∈ events → Entered inner outer →
      Entered inner events

/-! ## Section 2: Steps with an account -/

/-- A step of a rendering, with what happens when it is taken in a state. -/
structure Traced (α : Type) where
  step : Render α
  events : Run → List Event

namespace Traced

variable {α β : Type}

/-- A step in which nothing happens. -/
def silent (x : Render α) : Traced α :=
  ⟨x, fun _ => []⟩

/-- What happens behind a step, unless the step fails. -/
def behind (result : EStateM.Result Failure Run α) (f : α → Traced β) : List Event :=
  match result with
  | .ok a after => (f a).events after
  | .error _ _ => []

instance : Monad Traced where
  pure a := silent (pure a)
  bind x f :=
    ⟨x.step >>= fun a => (f a).step, fun run => x.events run ++ behind (x.step run) f⟩

/-- A step inside one more frame. -/
def inFrame (frame : Frame) (x : Traced α) : Traced α :=
  ⟨Render.inFrame frame x.step, fun run =>
    x.events { run with scope := .child frame run.scope }⟩

/-- A step whose failure is blamed on a place, if there is one. -/
def blamingOption (place : Option Place) (x : Traced α) : Traced α :=
  ⟨Node.blamingOption place x.step, x.events⟩

/-- An execution of a cycle. -/
def cycle (c : Cycle) (x : Render α) : Traced α :=
  ⟨x, fun run => [.cycle c ((Render.final (x run)).out.toList.drop run.out.size)]⟩

/-- An entry of a loop. -/
def entry (x : Traced α) : Traced α :=
  ⟨x.step, fun run => [.entry (x.events run)]⟩

@[simp] theorem step_silent (x : Render α) : (silent x).step = x := rfl

@[simp] theorem step_pure (a : α) : (pure a : Traced α).step = pure a := rfl

@[simp] theorem step_bind (x : Traced α) (f : α → Traced β) :
    (x >>= f).step = x.step >>= fun a => (f a).step := rfl

@[simp] theorem step_inFrame (frame : Frame) (x : Traced α) :
    (inFrame frame x).step = Render.inFrame frame x.step := rfl

@[simp] theorem step_blamingOption (place : Option Place) (x : Traced α) :
    (blamingOption place x).step = Node.blamingOption place x.step := rfl

@[simp] theorem step_cycle (c : Cycle) (x : Render α) : (cycle c x).step = x := rfl

@[simp] theorem step_entry (x : Traced α) : (entry x).step = x.step := rfl

theorem events_cycle (c : Cycle) (x : Render α) (run : Run) :
    (cycle c x).events run =
      [.cycle c ((Render.final (x run)).out.toList.drop run.out.size)] := rfl

theorem events_entry (x : Traced α) (run : Run) :
    (entry x).events run = [.entry (x.events run)] := rfl

/-! ## Section 3: Loops -/

/-- The iterations of a loop, with what happens in each. -/
def forItems (engine : Engine) (item : String) (length : Nat) (body : Traced Signal) :
    Nat → List Value → Traced Unit
  | _, [] => pure ()
  | i, v :: vs => do
    let signal ← inFrame (iterationFrame item v ⟨i, length, none⟩) body
    if signal = .stop then
      silent (Render.debug engine [.ok ("for " ++ item ++ " break at " ++ toString i)])
    else forItems engine item length body (i + 1) vs

/-- A loop.  What happens in its alternative does not happen inside it. -/
def runFor (engine : Engine) (h : LoopHeader) (body alternative : Traced Signal) :
    Traced Signal := do
  match ← silent (forValues engine h) with
  | [] => alternative
  | v :: vs => do
    entry (inFrame .loop (forItems engine h.item (v :: vs).length body 0 (v :: vs)))
    return .none

/-- The cells of a table, with what happens in each. -/
def tableItems (item : String) (length cols : Nat) (body : Traced Signal) :
    Nat → List Value → Traced Unit
  | _, [] => pure ()
  | i, v :: vs => do
    let position : LoopPosition := ⟨i, length, some cols⟩
    silent (openCell position cols)
    let signal ← inFrame (iterationFrame item v position) body
    silent (Render.write "</td>")
    if signal = .stop then pure ()
    else tableItems item length cols body (i + 1) vs

/-- A loop that fills a table. -/
def runTable (engine : Engine) (h : LoopHeader) (body : Traced Signal) : Traced Signal := do
  let (items, cols) ← silent (tableEntry engine h)
  match items with
  | [] => return .none
  | v :: vs => do
    entry (inFrame .loop (tableItems h.item (v :: vs).length cols body 0 (v :: vs)))
    silent (Render.write "</tr>")
    return .none

theorem step_forItems (engine : Engine) (item : String) (length : Nat) (body : Traced Signal)
    (vs : List Value) (i : Nat) :
    (forItems engine item length body i vs).step =
      Stencil.forItems engine item length body.step i vs := by
  induction vs generalizing i with
  | nil => rfl
  | cons v vs ih =>
    rw [forItems, Stencil.forItems, step_bind]
    refine bind_congr fun signal => ?_
    split
    · rfl
    · exact ih (i + 1)

theorem step_runFor (engine : Engine) (h : LoopHeader) (body alternative : Traced Signal) :
    (runFor engine h body alternative).step =
      Stencil.runFor engine h body.step (some alternative.step) := by
  unfold runFor Stencil.runFor
  rw [step_bind]
  refine bind_congr fun vs => ?_
  cases vs with
  | nil => rfl
  | cons v vs =>
    have inside := step_forItems engine h.item (v :: vs).length body (v :: vs) 0
    exact congrArg (fun items => Render.inFrame .loop items >>= fun _ => pure Signal.none) inside

theorem step_tableItems (item : String) (length cols : Nat) (body : Traced Signal)
    (vs : List Value) (i : Nat) :
    (tableItems item length cols body i vs).step =
      Stencil.tableItems item length cols body.step i vs := by
  induction vs generalizing i with
  | nil => rfl
  | cons v vs ih =>
    rw [tableItems, Stencil.tableItems, step_bind]
    refine bind_congr fun _ => bind_congr fun signal => bind_congr fun _ => ?_
    split
    · rfl
    · exact ih (i + 1)

theorem step_runTable (engine : Engine) (h : LoopHeader) (body : Traced Signal) :
    (runTable engine h body).step = Stencil.runTable engine h body.step := by
  rw [runTable_eq]
  unfold runTable tableRows
  rw [step_bind]
  refine bind_congr fun entered => ?_
  obtain ⟨items, cols⟩ := entered
  cases items with
  | nil => rfl
  | cons v vs =>
    have inside := step_tableItems h.item (v :: vs).length cols body (v :: vs) 0
    exact congrArg (fun items => Render.inFrame .loop items >>= fun _ =>
      Render.write "</tr>" >>= fun _ => pure Signal.none) inside

end Traced

/-! ## Section 4: Nodes and templates -/

namespace Node

mutual

/-- Renders a node, with what happens. -/
def traced (engine : Engine) : Node → Traced Signal
  | .text s => .silent (render engine (.text s))
  | .output e place => .silent (render engine (.output e place))
  | .assign name e place => .silent (render engine (.assign name e place))
  | .cycle c place => .cycle c (render engine (.cycle c place))
  | .signal s place => .silent (render engine (.signal s place))
  | .loop h body alternative _ =>
    Traced.runFor engine h (tracedAll engine body) (tracedOption engine alternative)
  | .table h body _ => Traced.runTable engine h (tracedAll engine body)
  | .branch negated branches alternative _ =>
    tracedBranches engine negated (tracedOption engine alternative) branches
  | .choice subject clauses alternative _ => do
    let v ← Traced.silent (Render.eval engine subject)
    tracedClauses engine v (tracedOption engine alternative) clauses

/-- Renders nodes in order, with what happens. -/
def tracedAll (engine : Engine) : List Node → Traced Signal
  | [] => pure .none
  | n :: ns => do
    Traced.silent Render.tick
    let signal ← Traced.blamingOption n.place? (traced engine n)
    if signal = .none then tracedAll engine ns else return signal

/-- Renders nodes that may be absent, with what happens. -/
def tracedOption (engine : Engine) : Option (List Node) → Traced Signal
  | none => pure .none
  | some ns => tracedAll engine ns

/-- Renders the first body whose condition holds, with what happens. -/
def tracedBranches (engine : Engine) (negated : Bool) (alternative : Traced Signal) :
    List (Expr × List Node) → Traced Signal
  | [] => alternative
  | (condition, body) :: rest => do
    let v ← Traced.silent (Render.eval engine condition)
    let truth ← Traced.silent (Render.lift v.truth)
    if truth != negated then tracedAll engine body
    else tracedBranches engine false alternative rest

/-- Renders the first body that has an alternative equal to the subject, with
    what happens. -/
def tracedClauses (engine : Engine) (subject : Value) (alternative : Traced Signal) :
    List (List Expr × List Node) → Traced Signal
  | [] => alternative
  | (alternatives, body) :: rest => do
    if ← Traced.silent (anyEqual engine subject alternatives) then tracedAll engine body
    else tracedClauses engine subject alternative rest

end

mutual

/-- The rendering with an account is the rendering. -/
theorem step_traced (engine : Engine) : (n : Node) → (n.traced engine).step = n.render engine
  | .text _ | .output _ _ | .assign _ _ _ | .cycle _ _ | .signal _ _ => by
    rw [traced]
    rfl
  | .loop h body alternative _ => by
    rw [traced, render, Traced.step_runFor, step_tracedAll, step_tracedOption]
  | .table h body _ => by
    rw [traced, render, Traced.step_runTable, step_tracedAll]
  | .branch negated branches alternative _ => by
    rw [traced, render, step_tracedBranches, step_tracedOption]
  | .choice subject clauses alternative _ => by
    rw [traced, render, Traced.step_bind]
    refine bind_congr fun v => ?_
    rw [step_tracedClauses, step_tracedOption]

theorem step_tracedAll (engine : Engine) : (ns : List Node) →
    (tracedAll engine ns).step = renderAll engine ns
  | [] => by
    rw [tracedAll, renderAll]
    rfl
  | n :: ns => by
    rw [tracedAll, renderAll, Traced.step_bind]
    refine bind_congr fun _ => ?_
    rw [Traced.step_bind, Traced.step_blamingOption, step_traced engine n]
    refine bind_congr fun signal => ?_
    split
    · exact step_tracedAll engine ns
    · rfl

theorem step_tracedOption (engine : Engine) : (alternative : Option (List Node)) →
    (tracedOption engine alternative).step = renderOption engine alternative
  | none => by
    rw [tracedOption, renderOption]
    rfl
  | some ns => by
    rw [tracedOption, renderOption, step_tracedAll]

theorem step_tracedBranches (engine : Engine) (negated : Bool) (alternative : Traced Signal) :
    (branches : List (Expr × List Node)) →
    (tracedBranches engine negated alternative branches).step =
      renderBranches engine negated alternative.step branches
  | [] => by
    rw [tracedBranches, renderBranches]
  | (condition, body) :: rest => by
    rw [tracedBranches, renderBranches, Traced.step_bind]
    refine bind_congr fun v => ?_
    rw [Traced.step_bind]
    refine bind_congr fun truth => ?_
    split
    · exact step_tracedAll engine body
    · exact step_tracedBranches engine false alternative rest

theorem step_tracedClauses (engine : Engine) (subject : Value) (alternative : Traced Signal) :
    (clauses : List (List Expr × List Node)) →
    (tracedClauses engine subject alternative clauses).step =
      renderClauses engine subject alternative.step clauses
  | [] => by
    rw [tracedClauses, renderClauses]
  | (alternatives, body) :: rest => by
    rw [tracedClauses, renderClauses, Traced.step_bind]
    refine bind_congr fun equal => ?_
    split
    · exact step_tracedAll engine body
    · exact step_tracedClauses engine subject alternative rest

end

end Node

/-- Renders a template, with what happens. -/
def Template.traced (engine : Engine) (t : Template) : Traced Unit := do
  let signal ← Node.tracedAll engine t.nodes
  if signal = .none then pure ()
  else Traced.silent (throw (Fault.stray (.signal signal)).failure)

theorem Template.step_traced (engine : Engine) (t : Template) :
    (t.traced engine).step = t.render engine := by
  unfold traced render
  rw [Traced.step_bind, Node.step_tracedAll]
  refine bind_congr fun signal => ?_
  split <;> rfl

end Stencil
