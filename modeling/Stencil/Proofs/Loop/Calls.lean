import Stencil.Proofs.Template.Signals

/-! # The calls of a loop's body

    A loop looks at its items once, when it is entered.  From then on it
    only calls its body: once for each item in order, each time in a frame
    of its own, and in the state that the call before has left.  Nothing
    that the body does, to the names that the header mentions or to any
    others, changes which items these are.  The first call that stops or
    fails is the last one. -/

namespace Stencil

/-! ## Section 1: The debug log -/

/-- Is a state another one but for new entries of the debug log?  There are
    none unless the engine writes one. -/
structure Run.Logged (engine : Engine) (run after : Run) : Prop where
  same : after = { run with log := after.log }
  silent : engine.settings.debug = false → after.log = run.log

namespace Run

variable {engine : Engine}

theorem logged_refl (run : Run) : run.Logged engine run :=
  ⟨rfl, fun _ => rfl⟩

theorem Logged.trans {a b c : Run} (h : a.Logged engine b) (k : b.Logged engine c) :
    a.Logged engine c := by
  refine ⟨?_, fun quiet => (k.silent quiet).trans (h.silent quiet)⟩
  rw [k.same, h.same]

theorem Logged.leave {run after : Run} (h : run.Logged engine after) :
    Run.Logged engine { run with scope := run.scope.leave }
      { after with scope := after.scope.leave } := by
  refine ⟨?_, h.silent⟩
  rw [h.same]

theorem Logged.scope_eq {run after : Run} (h : run.Logged engine after) :
    after.scope = run.scope := by
  rw [h.same]

end Run

namespace Render

variable {α β : Type} (engine : Engine)

theorem bind_of_ok {x : Render α} {f : α → Render β} {run mid : Run} {a : α}
    (h : x run = .ok a mid) : (x >>= f) run = f a mid := by
  show EStateM.bind x f run = _
  rw [EStateM.bind, h]

theorem bind_of_error {x : Render α} {f : α → Render β} {run mid : Run} {failure : Failure}
    (h : x run = .error failure mid) : (x >>= f) run = .error failure mid := by
  show EStateM.bind x f run = _
  rw [EStateM.bind, h]

/-- A step inside a frame ends as it does inside, without the frame. -/
theorem inFrame_of_ok {frame : Frame} {x : Render α} {run after : Run} {a : α}
    (h : x { run with scope := .child frame run.scope } = .ok a after) :
    inFrame frame x run = .ok a { after with scope := after.scope.leave } := by
  rw [inFrame, h]

theorem inFrame_of_error {frame : Frame} {x : Render α} {run after : Run} {failure : Failure}
    (h : x { run with scope := .child frame run.scope } = .error failure after) :
    inFrame frame x run = .error failure { after with scope := after.scope.leave } := by
  rw [inFrame, h]

theorem debug_ends (parts : List (Except OperandFault String)) (run : Run) :
    ∃ after, debug engine parts run = .ok () after ∧ run.Logged engine after := by
  unfold debug
  cases writes : engine.settings.debug with
  | true => exact ⟨_, rfl, rfl, fun quiet => absurd (writes.symm.trans quiet) nofun⟩
  | false => exact ⟨run, rfl, run.logged_refl⟩

theorem logPassedThrough_ends (names : List String) (run : Run) :
    ∃ after, logPassedThrough engine names run = .ok () after ∧ run.Logged engine after := by
  induction names generalizing run with
  | nil => exact ⟨run, rfl, run.logged_refl⟩
  | cons name rest ih =>
    obtain ⟨mid, here, first⟩ := debug_ends engine
      [.ok ("filter " ++ name ++ " undefined; passing receiver through")] run
    obtain ⟨after, later, second⟩ := ih mid
    exact ⟨after, (bind_of_ok here).trans later, first.trans second⟩

/-- Expressions are evaluated with the scope and at the moment at hand; only
    the debug log is any different afterwards. -/
theorem evaluate_ends (value : Registry → Names → Except Fault α)
    (names : Registry → Names → List String) (run : Run) :
    ∃ after, run.Logged engine after ∧ evaluate engine value names run =
      lift (value (engine.filters.atMoment run.moment) run.scope.names) after := by
  have opened : evaluate engine value names run = (do
      if engine.settings.debug then
        logPassedThrough engine (names (engine.filters.atMoment run.moment) run.scope.names)
      lift (value (engine.filters.atMoment run.moment) run.scope.names) : Render α) run := rfl
  rw [opened]
  cases engine.settings.debug with
  | false => exact ⟨run, run.logged_refl, rfl⟩
  | true =>
    obtain ⟨after, told, logged⟩ := logPassedThrough_ends engine
      (names (engine.filters.atMoment run.moment) run.scope.names) run
    exact ⟨after, logged, bind_of_ok told⟩

variable {engine}

/-- Does a step, in this state, just compute what is told?  However it ends,
    only the debug log is any different afterwards. -/
def Computes (engine : Engine) (x : Render α) (run : Run) (a : Except Fault α) : Prop :=
  ∃ after, run.Logged engine after ∧ x run = lift a after

theorem computes_lift (a : Except Fault α) (run : Run) : Computes engine (lift a) run a :=
  ⟨run, run.logged_refl, rfl⟩

theorem computes_evaluate (value : Registry → Names → Except Fault α)
    (names : Registry → Names → List String) (run : Run) :
    Computes engine (evaluate engine value names) run
      (value (engine.filters.atMoment run.moment) run.scope.names) :=
  evaluate_ends engine value names run

/-- What the second step computes may depend on the state in front of the
    first: the scope and the moment are the same. -/
theorem Computes.bind {x : Render α} {f : α → Render β} {run : Run} {a : Except Fault α}
    {g : α → Except Fault β} (h : Computes engine x run a)
    (k : ∀ v mid, run.Logged engine mid → Computes engine (f v) mid (g v)) :
    Computes engine (x >>= f) run (a >>= g) := by
  obtain ⟨mid, first, ended⟩ := h
  cases a with
  | error fault => exact ⟨mid, first, bind_of_error ended⟩
  | ok v =>
    obtain ⟨after, second, later⟩ := k v mid first
    exact ⟨after, first.trans second, (bind_of_ok ended).trans later⟩

/-- An entry of the debug log in front of a step changes nothing else. -/
theorem computes_debug_bind (parts : List (Except OperandFault String)) {f : Unit → Render β}
    {run : Run} {b : Except Fault β}
    (k : ∀ mid, run.Logged engine mid → Computes engine (f ()) mid b) :
    Computes engine (debug engine parts >>= f) run b := by
  obtain ⟨mid, told, first⟩ := debug_ends engine parts run
  obtain ⟨after, second, later⟩ := k mid first
  exact ⟨after, first.trans second, (bind_of_ok told).trans later⟩

end Render

/-! ## Section 2: The items of a loop -/

/-- Is what the loop walks along within the limit, when the loop is entered
    in this state?  It is counted before any item is looked at. -/
def LoopHeader.Within (engine : Engine) (h : LoopHeader) (run : Run) : Prop :=
  ∃ walked count, h.walked (engine.filters.atMoment run.moment) run.scope.names = .ok walked ∧
    walked.count = .ok count ∧ Settings.allows engine.settings.maxLoopItems count = true

/-- What a loop of the tag walks along is counted and checked before its
    items are looked at. -/
def LoopHeader.checked (engine : Engine) (tag : String) (h : LoopHeader) (run : Run) :
    Except Fault (List Value) := do
  let walked ← h.walked (engine.filters.atMoment run.moment) run.scope.names
  let count ← walked.count
  checkLimit engine tag count
  walked.values

theorem LoopHeader.checked_of_within {engine : Engine} {h : LoopHeader} {run : Run}
    {items : List Value}
    (atEntry : h.items (engine.filters.atMoment run.moment) run.scope.names = .ok items)
    (within : h.Within engine run) (tag : String) : h.checked engine tag run = .ok items := by
  obtain ⟨walked, count, walks, counted, allowed⟩ := within
  have checks : checkLimit engine tag count = .ok () := if_pos allowed
  rw [LoopHeader.items, walks] at atEntry
  rw [checked, walks]
  show (walked.count >>= _) = _
  rw [counted]
  show (checkLimit engine tag count >>= _) = _
  rw [checks]
  exact atEntry

/-- The header is evaluated in the state in which the loop is entered. -/
theorem LoopHeader.start_computes (engine : Engine) (h : LoopHeader) (run : Run) :
    Render.Computes engine (h.start engine) run
      (h.walked (engine.filters.atMoment run.moment) run.scope.names) :=
  Render.computes_evaluate _ _ run

/-- The items of a loop are computed from its header. -/
theorem forValues_computes (engine : Engine) (h : LoopHeader) (run : Run) :
    Render.Computes engine (forValues engine h) run (h.checked engine "for" run) := by
  refine (h.start_computes engine run).bind fun walked _ _ => ?_
  refine (Render.computes_lift walked.count _).bind fun count _ _ => ?_
  refine Render.computes_debug_bind _ fun _ _ => ?_
  refine (Render.computes_lift (checkLimit engine "for" count) _).bind fun _ _ _ => ?_
  exact Render.computes_lift walked.values _

/-- The items are those that the header means in the state in which the loop
    is entered. -/
theorem forValues_ends {engine : Engine} {h : LoopHeader} {run : Run} {items : List Value}
    (atEntry : h.items (engine.filters.atMoment run.moment) run.scope.names = .ok items)
    (within : h.Within engine run) :
    ∃ start, run.Logged engine start ∧ forValues engine h run = .ok items start := by
  obtain ⟨start, logged, ended⟩ := forValues_computes engine h run
  rw [LoopHeader.checked_of_within atEntry within] at ended
  exact ⟨start, logged, ended⟩

/-- The items of a table and the number of its columns, unless there are too
    many items. -/
def tableEntry (engine : Engine) (h : LoopHeader) : Render (List Value × Nat) := do
  let walked ← h.start engine
  Render.lift (checkLimit engine "tablerow" (← Render.lift walked.count))
  let items ← Render.lift walked.values
  let given ← Render.evaluate engine
    (fun filters names => modifierCount filters names "cols" h.cols)
    (fun filters names => passedThroughOption filters names h.cols)
  let cols := columns given items.length
  Render.debug engine
    [.ok ("tablerow " ++ h.item ++ " length " ++ toString items.length ++ " cols"),
      Native.writeInt (Int.ofNat cols)]
  return (items, cols)

/-- The rows of a table with these items. -/
def tableRows (h : LoopHeader) (body : Render Signal) (items : List Value) (cols : Nat) :
    Render Signal :=
  match items with
  | [] => pure .none
  | items => do
    Render.inFrame .loop (tableItems h.item items.length cols body 0 items)
    Render.write "</tr>"
    return .none

theorem runTable_eq (engine : Engine) (h : LoopHeader) (body : Render Signal) :
    runTable engine h body = (do
      let (items, cols) ← tableEntry engine h
      tableRows h body items cols) := by
  unfold runTable tableEntry
  simp only [bind_assoc, pure_bind]
  refine bind_congr fun walked => bind_congr fun count => bind_congr fun _ => ?_
  refine bind_congr fun items => bind_congr fun given => bind_congr fun _ => ?_
  cases items <;> rfl

/-- The items of a table and its columns are computed from its header, the
    columns behind the items, in what is still the same scope. -/
theorem tableEntry_computes (engine : Engine) (h : LoopHeader) (run : Run) :
    Render.Computes engine (tableEntry engine h) run (do
      let items ← h.checked engine "tablerow" run
      let given ← modifierCount (engine.filters.atMoment run.moment) run.scope.names "cols" h.cols
      return (items, columns given items.length)) := by
  unfold tableEntry LoopHeader.checked
  simp only [bind_assoc]
  refine (h.start_computes engine run).bind fun walked first quiet => ?_
  refine (Render.computes_lift walked.count _).bind fun count _ counted => ?_
  refine (Render.computes_lift (checkLimit engine "tablerow" count) _).bind fun _ _ checked => ?_
  refine (Render.computes_lift walked.values _).bind fun items mid valued => ?_
  have logged := ((quiet.trans counted).trans checked).trans valued
  have sameMoment : run.moment = mid.moment := by rw [logged.same]
  rw [sameMoment, ← logged.scope_eq]
  refine (Render.computes_evaluate _ _ mid).bind fun given _ _ => ?_
  exact Render.computes_debug_bind _ fun _ _ => Render.computes_lift (.ok _) _

/-- The state that a step ends in, in whatever way it ends. -/
def Render.final {α : Type} : EStateM.Result Failure Run α → Run
  | .ok _ run | .error _ run => run

/-- A call of a loop's body: the state in front of it, outside the frame of
    its iteration, and how it ends. -/
structure Call where
  before : Run
  ended : EStateM.Result Failure Run Signal

namespace Call

/-- The state in which a call ends. -/
def left (c : Call) : Run :=
  Render.final c.ended

/-- The state behind a call, outside the frame of its iteration. -/
def behind (c : Call) : Run :=
  { c.left with scope := c.left.scope.leave }

/-- How a call ends for the loop, outside the frame of its iteration. -/
def result (c : Call) : EStateM.Result Failure Run Signal :=
  match c.ended with
  | .ok signal _ => .ok signal c.behind
  | .error failure _ => .error failure c.behind

/-- Does a call let another one follow? -/
def goesOn (c : Call) : Bool :=
  match c.ended with
  | .ok signal _ => signal ≠ .stop
  | .error _ _ => false

/-- The state behind the whole loop whose last call this is, outside the
    frame around all iterations. -/
def outside (c : Call) : Run :=
  { c.behind with scope := c.behind.scope.leave }

/-- Do the calls end like this, when this is the last of them?  They fail as
    the last one does; otherwise they just end with `a`, and tell the debug
    log if the body has stopped them. -/
def Concludes {α : Type} (engine : Engine) (c : Call) (a : α) (final : Run)
    (result : EStateM.Result Failure Run α) : Prop :=
  match c.ended with
  | .ok _ _ => ∃ after, final.Logged engine after ∧ result = .ok a after
  | .error failure _ => result = .error failure final

/-- What a loop does with its body inside a frame is one of its calls. -/
theorem inFrame_eq {frame : Frame} {body : Render Signal} {c : Call}
    (h : c.ended = body { c.before with scope := .child frame c.before.scope }) :
    Render.inFrame frame body c.before = c.result := by
  unfold result
  cases ended : c.ended with
  | ok signal left =>
    rw [Render.inFrame_of_ok (h.symm.trans ended), behind, Call.left, ended]
    rfl
  | error failure left =>
    rw [Render.inFrame_of_error (h.symm.trans ended), behind, Call.left, ended]
    rfl

/-- A loop whose last call would go on just ends. -/
theorem concludes_of_goesOn {engine : Engine} {c : Call} (more : c.goesOn = true) :
    c.Concludes engine () c.behind (.ok () c.behind) := by
  unfold goesOn at more
  unfold Concludes
  cases ended : c.ended with
  | ok signal left => exact ⟨c.behind, c.behind.logged_refl, rfl⟩
  | error failure left =>
    rw [ended] at more
    cases more

end Call

/-- Are these the calls of a body for some items, of which the first is the
    `first`-th of the loop?  There is one call for each item from there on,
    up to the first that does not go on.  `call` tells how a call ends, and
    `lead` and `close` what the loop does in front of a call and behind it. -/
structure CallsOf (call : Nat → Value → Run → EStateM.Result Failure Run Signal)
    (lead : Nat → Run → Run) (close : Run → Run) (first : Nat) (items : List Value) (start : Run)
    (calls : List Call) : Prop where
  bounded : calls.length ≤ items.length
  made : ∀ (i : Nat) (c : Call) (v : Value), calls[i]? = some c → items[i]? = some v →
    c.ended = call (first + i) v c.before
  starts : ∀ c : Call, calls[0]? = some c → c.before = lead first start
  follows : ∀ (i : Nat) (c d : Call), calls[i]? = some c → calls[i + 1]? = some d →
    c.goesOn = true ∧ d.before = lead (first + (i + 1)) (close c.behind)
  complete : ∀ c : Call, calls.getLast? = some c → c.goesOn = true → calls.length = items.length

namespace CallsOf

variable {call : Nat → Value → Run → EStateM.Result Failure Run Signal} {lead : Nat → Run → Run}
  {close : Run → Run} {first : Nat} {v : Value} {items : List Value} {start : Run} {c : Call}

/-- A last call. -/
theorem single (front : c.before = lead first start) (ended : c.ended = call first v c.before)
    (h : c.goesOn = false ∨ items = []) :
    CallsOf call lead close first (v :: items) start [c] where
  bounded := by simp
  made := by
    intro i d w hd hw
    cases i with
    | zero =>
      cases hd
      cases hw
      exact ended
    | succ i => cases hd
  starts := by
    intro d hd
    cases hd
    exact front
  follows := fun i d e _ he => by cases he
  -- only a last call that goes on has to have used up the items
  complete := by
    intro d hd goes
    obtain rfl : c = d := Option.some.inj hd
    obtain stops | rfl := h
    · rw [stops] at goes
      cases goes
    · rfl

/-- A call that goes on, in front of the others. -/
theorem cons {calls : List Call} (front : c.before = lead first start)
    (ended : c.ended = call first v c.before) (goes : c.goesOn = true) (some_call : calls ≠ [])
    (h : CallsOf call lead close (first + 1) items (close c.behind) calls) :
    CallsOf call lead close first (v :: items) start (c :: calls) where
  bounded := Nat.succ_le_succ h.bounded
  made := by
    intro i d w hd hw
    cases i with
    | zero =>
      cases hd
      cases hw
      exact ended
    | succ i =>
      rw [h.made i d w hd hw, Nat.add_assoc, Nat.add_comm 1 i]
  starts := by
    intro d hd
    cases hd
    exact front
  follows := by
    intro i d e hd he
    cases i with
    | zero =>
      cases hd
      exact ⟨goes, h.starts e he⟩
    | succ i =>
      obtain ⟨more, next⟩ := h.follows i d e hd he
      rw [Nat.add_assoc, Nat.add_comm 1] at next
      exact ⟨more, next⟩
  complete := by
    intro d hd more
    rw [List.getLast?_cons_of_ne_nil some_call] at hd
    rw [List.length_cons, List.length_cons, h.complete d hd more]

variable (call lead) in
/-- The call for an item. -/
def one (i : Nat) (v : Value) (run : Run) : Call :=
  ⟨lead i run, call i v (lead i run)⟩

/-- What makes its calls one by one makes them up to the first that does not
    go on, and ends as the last of them lets it.  What holds of a last call,
    and goes on to hold with another call in front, holds of all the calls. -/
theorem exists_of_steps {go : Nat → List Value → Run → EStateM.Result Failure Run Unit}
    {Ends : Call → EStateM.Result Failure Run Unit → Prop}
    {P : Nat → Run → List Call → Call → Prop}
    (step : ∀ i v vs run,
      ((one call lead i v run).goesOn = false →
        Ends (one call lead i v run) (go i (v :: vs) run)) ∧
      ((one call lead i v run).goesOn = true →
        go i (v :: vs) run = go (i + 1) vs (close (one call lead i v run).behind)))
    (done : ∀ i c, c.goesOn = true → Ends c (go i [] (close c.behind)))
    (alone : ∀ i v run, P i run [one call lead i v run] (one call lead i v run))
    (inFront : ∀ i v run calls last, P (i + 1) (close (one call lead i v run).behind) calls last →
      P i run (one call lead i v run :: calls) last)
    (v : Value) (vs : List Value) (i : Nat) (run : Run) :
    ∃ calls, CallsOf call lead close i (v :: vs) run calls ∧
      ∃ last, calls.getLast? = some last ∧ Ends last (go i (v :: vs) run) ∧
        P i run calls last := by
  -- on the items behind the first, so that there is a call in every case
  induction vs generalizing v i run with
  | nil =>
    obtain ⟨halts, goes⟩ := step i v [] run
    refine ⟨_, single rfl rfl (.inr rfl), _, rfl, ?_, alone i v run⟩
    cases more : (one call lead i v run).goesOn with
    | false => exact halts more
    | true =>
      rw [goes more]
      exact done (i + 1) _ more
  | cons w vs ih =>
    obtain ⟨halts, goes⟩ := step i v (w :: vs) run
    cases more : (one call lead i v run).goesOn with
    | false => exact ⟨_, single rfl rfl (.inl more), _, rfl, halts more, alone i v run⟩
    | true =>
      obtain ⟨calls, made, last, atEnd, ends, holds⟩ :=
        ih w (i + 1) (close (one call lead i v run).behind)
      have some_call : calls ≠ [] := by
        rintro rfl
        cases atEnd
      refine ⟨_, cons rfl rfl more some_call made, last, ?_, ?_, inFront i v run calls last holds⟩
      · rw [List.getLast?_cons_of_ne_nil some_call, atEnd]
      · rwa [goes more]

end CallsOf

/-- The scope in which the body is called for an item at a position. -/
def positionScope (item : String) (v : Value) (position : LoopPosition) (outer : Scope) : Scope :=
  .child (iterationFrame item v position) outer

/-- The scope in which the body is called for an item: around it is `outer`,
    and in the frame of the iteration are the item and the position, and
    nothing else. -/
def iterationScope (item : String) (v : Value) (i length : Nat) (outer : Scope) : Scope :=
  .child ⟨[(item, v.native), ("forloop", .loop ⟨i, length, none⟩)], .bool true, []⟩ outer

/-- Are these the calls of a body for some items, of which the first is the
    `first`-th of the loop?  There is one call for each item from there on,
    up to the first that does not go on.  Each is made in the state behind
    the call before it. -/
structure Calls (item : String) (length : Nat) (body : Render Signal) (first : Nat)
    (items : List Value) (start : Run) (calls : List Call) : Prop where
  bounded : calls.length ≤ items.length
  made : ∀ (i : Nat) (c : Call) (v : Value), calls[i]? = some c → items[i]? = some v → c.ended =
    body { c.before with scope := iterationScope item v (first + i) length c.before.scope }
  starts : ∀ c : Call, calls[0]? = some c → c.before = start
  follows : ∀ (i : Nat) (c d : Call), calls[i]? = some c → calls[i + 1]? = some d →
    c.goesOn = true ∧ d.before = c.behind
  complete : ∀ c : Call, calls.getLast? = some c → c.goesOn = true → calls.length = items.length

namespace Calls

variable {item : String} {length : Nat} {body : Render Signal} {first : Nat} {v : Value}
  {items : List Value} {start : Run}

/-- The call for one item. -/
def call (item : String) (length : Nat) (body : Render Signal) (i : Nat) (v : Value)
    (run : Run) : Call :=
  ⟨run, body { run with scope := iterationScope item v i length run.scope }⟩

/-- A loop over items does nothing itself between the calls. -/
theorem of_callsOf {calls : List Call}
    (h : CallsOf (fun i v run => (call item length body i v run).ended) (fun _ run => run) id first
      items start calls) : Calls item length body first items start calls :=
  ⟨h.bounded, h.made, h.starts, h.follows, h.complete⟩

end Calls

theorem iterationFrame_eq {item : String} (other : item ≠ "forloop") (v : Value)
    (position : LoopPosition) :
    iterationFrame item v position =
      ⟨[(item, v.native), ("forloop", .loop position)], .bool true, []⟩ := by
  unfold iterationFrame Frame.passing Bindings.of
  simp [Bindings.put, other]

/-- The call for one item, whatever its name is. -/
def framedCall (item : String) (length : Nat) (body : Render Signal) (i : Nat) (v : Value)
    (run : Run) : Call :=
  ⟨run, body { run with scope := positionScope item v ⟨i, length, none⟩ run.scope }⟩

theorem Calls.call_eq {item : String} (other : item ≠ "forloop") (length : Nat)
    (body : Render Signal) (i : Nat) (v : Value) (run : Run) :
    call item length body i v run = framedCall item length body i v run := by
  unfold call framedCall iterationScope positionScope
  rw [iterationFrame_eq other]

section

variable (engine : Engine) {item : String} {length : Nat} {body : Render Signal}

/-- A call that does not go on ends the loop; behind any other, the loop
    goes on with the rest. -/
theorem forItems_cons (v : Value) (vs : List Value) (i : Nat) (run : Run) :
    ((framedCall item length body i v run).goesOn = false →
      (framedCall item length body i v run).Concludes engine ()
        (framedCall item length body i v run).behind
        (forItems engine item length body i (v :: vs) run)) ∧
    ((framedCall item length body i v run).goesOn = true →
      forItems engine item length body i (v :: vs) run =
        forItems engine item length body (i + 1) vs
          (framedCall item length body i v run).behind) := by
  have iteration : Render.inFrame (iterationFrame item v ⟨i, length, none⟩) body run =
      (framedCall item length body i v run).result :=
    @Call.inFrame_eq _ body (framedCall item length body i v run) rfl
  -- from here on it matters only how the call ends
  generalize framedCall item length body i v run = c at iteration ⊢
  unfold Call.goesOn Call.Concludes
  unfold Call.result at iteration
  rw [forItems]
  cases ended : c.ended with
  | error failure left =>
    rw [ended] at iteration
    exact ⟨fun _ => Render.bind_of_error iteration, nofun⟩
  | ok signal left =>
    rw [ended] at iteration
    rw [Render.bind_of_ok iteration]
    by_cases stops : signal = .stop
    · obtain ⟨after, told, logged⟩ := Render.debug_ends engine
        [.ok ("for " ++ item ++ " break at " ++ toString i)] c.behind
      refine ⟨fun _ => ⟨after, logged, ?_⟩, fun goes => ?_⟩
      · rw [if_pos stops]
        exact told
      · simp [stops] at goes
    · refine ⟨fun halts => ?_, fun _ => ?_⟩
      · simp [stops] at halts
      · rw [if_neg stops]

/-- A loop over items is the calls of its body, whatever the name of the
    item is. -/
theorem forItems_framed (v : Value) (vs : List Value) (i : Nat) (run : Run) :
    ∃ calls, CallsOf (fun i v run => (framedCall item length body i v run).ended)
        (fun _ run => run) id i (v :: vs) run calls ∧
      ∃ last, calls.getLast? = some last ∧
        last.Concludes engine () last.behind
          (forItems engine item length body i (v :: vs) run) := by
  obtain ⟨calls, made, last, atEnd, concludes, -⟩ :=
    @CallsOf.exists_of_steps (fun i v run => (framedCall item length body i v run).ended)
      (fun _ run => run) id (forItems engine item length body)
      (fun c result => c.Concludes engine () c.behind result) (fun _ _ _ _ => True)
      (fun i v vs run => forItems_cons engine v vs i run)
      (fun _ _ more => Call.concludes_of_goesOn more) (fun _ _ _ => trivial)
      (fun _ _ _ _ _ _ => trivial) v vs i run
  exact ⟨calls, made, last, atEnd, concludes⟩

/-- A loop over items is the calls of its body. -/
theorem forItems_calls (other : item ≠ "forloop") (v : Value) (vs : List Value) (i : Nat)
    (run : Run) :
    ∃ calls, Calls item length body i (v :: vs) run calls ∧
      ∃ last, calls.getLast? = some last ∧
        last.Concludes engine () last.behind
          (forItems engine item length body i (v :: vs) run) := by
  obtain ⟨calls, made, ends⟩ := @forItems_framed engine item length body v vs i run
  refine ⟨calls, Calls.of_callsOf ?_, ends⟩
  simpa only [Calls.call_eq other] using made

/-- The frame around all iterations is gone behind the loop. -/
theorem inFrame_loop {last : Call} {x : Render Unit} {start : Run}
    (h : last.Concludes engine () last.behind
      (x { start with scope := .child .loop start.scope })) :
    last.Concludes engine Signal.none last.outside
      ((Render.inFrame .loop x >>= fun _ => pure Signal.none) start) := by
  unfold Call.Concludes at h ⊢
  cases ended : last.ended with
  | ok signal left =>
    rw [ended] at h
    obtain ⟨after, logged, completed⟩ := h
    exact ⟨_, logged.leave, Render.bind_of_ok (Render.inFrame_of_ok completed)⟩
  | error failure left =>
    rw [ended] at h
    exact Render.bind_of_error (Render.inFrame_of_error h)

end

/-! ## Section 4: What a body sees -/

/-- What `forloop` tells about the `i`-th of some items. -/
def positionFields (i length : Nat) : List (String × Value) :=
  [("index0", .ofInt i), ("index", .ofInt (i + 1)), ("rindex", .ofInt (length - i)),
    ("rindex0", .ofInt (length - i - 1)), ("length", .ofInt length),
    ("first", .boolean (decide (i = 0))), ("last", .boolean (decide ((i : Int) = length - 1)))]

/-- Does the body see the item and its position in the scope, and all other
    names as they are outside? -/
structure Scope.Shows (s : Scope) (item : String) (v : Value) (i length : Nat) (outer : Scope) :
    Prop where
  frame : s.frame.bindings = [(item, v.native), ("forloop", .loop ⟨i, length, none⟩)]
  bound : ∀ filters, (Expr.var item).eval filters s.names = .ok v
  position : ∀ filters, ∀ field ∈ positionFields i length,
    (Expr.property (.var "forloop") field.1).eval filters s.names = .ok field.2
  others : ∀ name, name ≠ item → name ≠ "forloop" → s.get? name = outer.get? name

theorem get?_iterationScope {item : String} (v : Value) (i length : Nat) (outer : Scope)
    {name : String} (notItem : name ≠ item) :
    (iterationScope item v i length outer).get? name =
      if name = "forloop" then some (.loop ⟨i, length, none⟩) else outer.get? name := by
  unfold iterationScope
  rw [Scope.get?, List.lookup_cons, beq_false_of_ne notItem, List.lookup_cons]
  by_cases position : name = "forloop"
  · rw [if_pos position, position]
    rfl
  · rw [if_neg position, beq_false_of_ne position]
    rfl

theorem iterationScope_shows {item : String} (other : item ≠ "forloop") (v : Value)
    (i length : Nat) (outer : Scope) :
    (iterationScope item v i length outer).Shows item v i length outer where
  frame := rfl
  bound := by
    intro filters
    have found : (iterationScope item v i length outer).get? item = some v.native := by
      unfold iterationScope
      rw [Scope.get?, List.lookup_cons_self]
    rw [Expr.eval, Scope.names, found]
    exact v.wrap_native
  position := by
    intro filters field hfield
    have found := get?_iterationScope v i length outer (Ne.symm other)
    -- `forloop` is a mapping there, so a field of it is an entry of that
    have seen : (Expr.property (.var "forloop") field.1).eval filters
        (iterationScope item v i length outer).names =
        (Value.mapping (LoopPosition.loopEntries ⟨i, length, none⟩)).property field.1 := by
      rw [Expr.eval, Expr.eval, Scope.names, found]
      rfl
    have isFirst : decide ((i : Int) = 0) = decide (i = 0) := decide_eq_decide.2 Int.natCast_eq_zero
    rw [seen]
    simp only [positionFields, List.mem_cons, List.not_mem_nil, or_false] at hfield
    rcases hfield with rfl | rfl | rfl | rfl | rfl | rfl | rfl
    · rfl
    · rfl
    · rfl
    · rfl
    · rfl
    · rw [← isFirst]
      rfl
    · rfl
  others := by
    intro name notItem notPosition
    rw [get?_iterationScope v i length outer notItem, if_neg notPosition]

/-! ## Section 5: The frame around all iterations -/

/-- Does the body bind nothing in the frame around all iterations?  It may
    change whatever is outside. -/
def Render.PassesLoop (body : Render Signal) : Prop :=
  ∀ (run : Run) (frame loop : Frame) (caller : Scope),
    run.scope = .child frame (.child loop caller) → frame.isTransient = true →
    loop.isTransient = true →
    ∃ frame' loop' caller', (Render.final (body run)).scope = .child frame' (.child loop' caller') ∧
      loop'.isTransient = true ∧ loop'.bindings = loop.bindings

/-- Is the scope that of a caller inside a frame that binds nothing? -/
def Scope.IsAround (caller s : Scope) : Prop :=
  ∃ loop, s = .child loop caller ∧ loop.isTransient = true ∧ loop.bindings = []

theorem Scope.IsAround.get? {caller s : Scope} (h : caller.IsAround s) (name : String) :
    s.get? name = caller.get? name := by
  obtain ⟨loop, rfl, -, free⟩ := h
  rw [Scope.get?, free]
  rfl

/-- Between the calls of such a body there is only the caller's scope, as
    the calls so far have left it. -/
theorem Calls.around {item : String} {length : Nat} {body : Render Signal} {items : List Value}
    {start : Run} {calls : List Call} (passes : body.PassesLoop)
    (h : Calls item length body 0 items { start with scope := .child .loop start.scope } calls)
    (i : Nat) {c : Call} (hc : calls[i]? = some c) :
    c.before.scope.leave.IsAround c.before.scope := by
  induction i generalizing c with
  | zero =>
    rw [h.starts c hc]
    exact ⟨.loop, rfl, rfl, rfl⟩
  | succ i ih =>
    have inside : i + 1 < calls.length := (List.getElem?_eq_some_iff.1 hc).1
    have available : i < items.length := by
      have := h.bounded
      omega
    have hb : calls[i]? = some calls[i] := List.getElem?_eq_getElem (by omega)
    have hv : items[i]? = some items[i] := List.getElem?_eq_getElem available
    -- the frame is there in front of the call, and the call leaves it alone
    obtain ⟨loop, shape, transient, free⟩ := ih hb
    obtain ⟨frame', loop', caller', left, transient', bindings⟩ :=
      passes { calls[i].before with scope := iterationScope item items[i] (0 + i) length _ }
        _ loop _ (congrArg (Scope.child _) shape) rfl transient
    have behind : c.before.scope = .child loop' caller' := by
      rw [(h.follows i _ c hb hc).2, Call.behind, Call.left, h.made i _ _ hb hv]
      show (Render.final (body _)).scope.leave = _
      rw [left]
      rfl
    rw [behind]
    exact ⟨loop', rfl, transient', bindings.trans free⟩

/-! ## Section 6: Whole loops -/

/-- A loop whose items are within the limit.  Without items it is its
    alternative, in the caller's scope.  Otherwise it is the calls of its
    body for the items that the header means when the loop is entered,
    whatever the body does; in each call the body sees the item and its
    position, and all other names as the calls before have left them; and
    the loop says nothing itself. -/
theorem runFor_calls {engine : Engine} {h : LoopHeader} {run : Run} {items : List Value}
    (other : h.item ≠ "forloop")
    (atEntry : h.items (engine.filters.atMoment run.moment) run.scope.names = .ok items)
    (within : h.Within engine run) :
    ∃ start, run.Logged engine start ∧
      ∀ (body : Render Signal) (alternative : Option (Render Signal)),
        (items = [] →
          runFor engine h body alternative run = alternative.getD (pure .none) start) ∧
        (items ≠ [] → ∃ calls last,
          Calls h.item items.length body 0 items
            { start with scope := .child .loop start.scope } calls ∧
          calls.getLast? = some last ∧
          last.Concludes engine .none last.outside (runFor engine h body alternative run) ∧
          ∀ (i : Nat) (c : Call) (v : Value), calls[i]? = some c → items[i]? = some v →
            (iterationScope h.item v i items.length c.before.scope).Shows h.item v i items.length
              c.before.scope ∧
            (body.PassesLoop → c.before.scope.leave.IsAround c.before.scope)) := by
  obtain ⟨start, logged, values⟩ := forValues_ends atEntry within
  refine ⟨start, logged, fun body alternative => ⟨?_, ?_⟩⟩
  · rintro rfl
    exact Render.bind_of_ok values
  · intro some_item
    obtain ⟨v, vs, rfl⟩ := List.exists_cons_of_ne_nil some_item
    obtain ⟨calls, made, last, atEnd, concludes⟩ :=
      forItems_calls engine other v vs 0
        { start with scope := .child .loop start.scope }
    refine ⟨calls, last, made, atEnd, ?_, fun i c w hc hw => ⟨?_, fun passes => ?_⟩⟩
    · have completed := inFrame_loop engine concludes
      unfold runFor
      rw [Render.bind_of_ok values]
      exact completed
    · exact iterationScope_shows other w i _ _
    · exact made.around passes i hc

/-- A loop over two integers. -/
def LoopHeader.pair : LoopHeader :=
  ⟨"x", .range (.literal (.int 1)) (.literal (.int 2)), false, none, none, none⟩

/-- A rendering that begins without any names. -/
def Run.fresh : Run :=
  ⟨.ofBindings [], #[], #[], 0⟩

/-- The calls of a body that always stops. -/
theorem pair_calls :
    LoopHeader.pair.item ≠ "forloop" ∧
    LoopHeader.pair.items ((Engine.standard .standard).filters.atMoment 0) Run.fresh.scope.names =
      .ok [.ofInt 1, .ofInt 2] ∧
    LoopHeader.pair.Within (Engine.standard .standard) Run.fresh ∧
    ∃ start, Run.fresh.Logged (Engine.standard .standard) start ∧ ∃ calls last,
      Calls "x" 2 (pure .stop) 0 [.ofInt 1, .ofInt 2]
        { start with scope := .child .loop start.scope } calls ∧
      calls.getLast? = some last ∧
      last.Concludes (Engine.standard .standard) .none last.outside
        (runFor (Engine.standard .standard) .pair (pure .stop) none Run.fresh) := by
  have other : LoopHeader.pair.item ≠ "forloop" := by decide
  have atEntry : LoopHeader.pair.items ((Engine.standard .standard).filters.atMoment 0)
      Run.fresh.scope.names = .ok [.ofInt 1, .ofInt 2] := rfl
  have within : LoopHeader.pair.Within (Engine.standard .standard) Run.fresh :=
    ⟨.range (.between 1 2), 2, rfl, rfl, rfl⟩
  obtain ⟨start, logged, whole⟩ := runFor_calls other atEntry within
  obtain ⟨calls, last, made, atEnd, concludes, -⟩ := (whole (pure .stop) none).2 nofun
  exact ⟨other, atEntry, within, start, logged, calls, last, made, atEnd, concludes⟩

end Stencil
