import Stencil.Loop.Cycle
import Stencil.Proofs.Scope.Tidy
import Stencil.Proofs.Statement.Eval

/-! # What the steps of a rendering keep

    A step of a rendering begins and ends with a tidy scope of one shape,
    also when it fails.  What it fails with is what its expressions may fail
    with, or a cycle or signal that is no loop's; the terms of a rendering
    say what is promised about its data, its filters and its nodes. -/

namespace Stencil

/-! ## Section 1: The terms of a rendering -/

/-- What is promised about a rendering: whether its data are sound, which
    faults its filters may raise on their own, whether cycles and signals
    stand in loops only, and at what places its nodes stand. -/
structure Terms where
  sound : Prop
  own : Fault → Prop
  contained : Prop
  placed : Place → Prop
  own_placed : ∀ f, own f → ∀ p, f.place? = some p → placed p

/-- Is this a failure that the terms allow? -/
structure Terms.Allows (q : Terms) (f : Failure) : Prop where
  fault : f.fault.Arises q.sound q.own ∨ (¬ q.contained ∧ ∃ cause, f.fault = .stray cause)
  place : ∀ p, f.place = some p → q.placed p

namespace Terms

variable {q : Terms}

theorem allows_of_arises {f : Fault} (h : f.Arises q.sound q.own) : q.Allows f.failure := by
  refine ⟨.inl h, fun p hp => ?_⟩
  rcases h with ordinary | ⟨name, rfl⟩ | own
  · cases f with
    | custom message place => exact ordinary.elim
    | _ => cases hp
  · cases hp
  · exact q.own_placed f own p hp

theorem allows_stray (h : ¬ q.contained) (cause : Stray) :
    q.Allows (Fault.stray cause).failure :=
  ⟨.inr ⟨h, cause, rfl⟩, nofun⟩

theorem Allows.blame {f : Failure} (h : q.Allows f) {place : Place} (hp : q.placed place) :
    q.Allows (f.blame place) := by
  unfold Failure.blame
  split
  · refine ⟨h.fault, fun p same => ?_⟩
    cases same
    exact hp
  · exact h

end Terms

/-! ## Section 2: Steps -/

/-- Does a step keep tidy scopes of a shape, end with what `ok` holds of, or
    fail as the terms allow? -/
def Render.Keeps {α : Type} (q : Terms) (shape : List Bool) (ok : α → Prop) (x : Render α) :
    Prop :=
  ∀ run : Run, run.scope.Tidy q.sound shape →
    match x run with
    | .ok a after => ok a ∧ after.scope.Tidy q.sound shape
    | .error f after => q.Allows f ∧ after.scope.Tidy q.sound shape

namespace Render

variable {α β : Type} {q : Terms} {shape : List Bool} {ok : α → Prop} {ok' : β → Prop}

theorem keeps_pure {a : α} (h : ok a) : Keeps q shape ok (pure a) :=
  fun _ tidy => ⟨h, tidy⟩

theorem Keeps.bind {x : Render α} {f : α → Render β} (h : Keeps q shape ok x)
    (k : ∀ a, ok a → Keeps q shape ok' (f a)) : Keeps q shape ok' (x >>= f) := by
  intro run tidy
  have first := h run tidy
  show match EStateM.bind x f run with
    | .ok b after => ok' b ∧ after.scope.Tidy q.sound shape
    | .error f after => q.Allows f ∧ after.scope.Tidy q.sound shape
  unfold EStateM.bind
  cases ended : x run with
  | ok a after =>
    rw [ended] at first
    exact k a first.1 after first.2
  | error f after =>
    rw [ended] at first
    exact first

theorem Keeps.mono {ok' : α → Prop} {x : Render α} (h : Keeps q shape ok x)
    (k : ∀ a, ok a → ok' a) : Keeps q shape ok' x := by
  intro run tidy
  have kept := h run tidy
  cases ended : x run with
  | ok a after =>
    rw [ended] at kept
    exact ⟨k a kept.1, kept.2⟩
  | error f after =>
    rw [ended] at kept
    exact kept

/-- A step that leaves the scope alone. -/
theorem keeps_modify {g : Run → Run} (h : ∀ run, (g run).scope = run.scope) :
    Keeps q shape (fun _ => True) (modify g) := by
  intro run tidy
  refine ⟨trivial, ?_⟩
  show (g run).scope.Tidy q.sound shape
  rw [h]
  exact tidy

theorem keeps_lift {x : Except Fault α} (h : Evaluates q.sound q.own ok x) :
    Keeps q shape (fun a => q.sound → ok a) (lift x) := by
  intro run tidy
  cases h with
  | ok ha => exact ⟨ha, tidy⟩
  | error hf => exact ⟨Terms.allows_of_arises hf, tidy⟩

theorem keeps_write (piece : String) : Keeps q shape (fun _ => True) (write piece) :=
  keeps_modify fun _ => rfl

theorem keeps_tick : Keeps q shape (fun _ => True) tick :=
  keeps_modify fun _ => rfl

theorem keeps_debug (engine : Engine) (parts : List (Except OperandFault String)) :
    Keeps q shape (fun _ => True) (debug engine parts) := by
  unfold debug
  split
  · exact keeps_modify fun _ => rfl
  · exact keeps_pure trivial

theorem keeps_logPassedThrough (engine : Engine) (names : List String) :
    Keeps q shape (fun _ => True) (logPassedThrough engine names) := by
  induction names with
  | nil => exact keeps_pure trivial
  | cons name rest ih => exact Keeps.bind (keeps_debug engine _) fun _ _ => ih

/-- Names stand for sound data in tidy scopes. -/
theorem names_yield {own : Fault → Prop} {sound : Prop} {s : Scope}
    (h : s.Tidy sound shape) : s.names.Yield sound own := by
  intro name
  refine .ok fun holds => ?_
  cases found : s.get? name with
  | none => exact trivial
  | some value => exact h.sound_get? holds found

theorem keeps_evaluate {engine : Engine} (hr : engine.filters.Yields q.sound q.own)
    {value : Registry → Names → Except Fault α} {names : Registry → Names → List String}
    (h : ∀ (r : Registry) (ns : Names), r.Yields q.sound q.own → ns.Yield q.sound q.own →
      Evaluates q.sound q.own ok (value r ns)) :
    Keeps q shape (fun a => q.sound → ok a) (evaluate engine value names) := by
  intro run tidy
  -- The expressions see the scope with which the step begins.
  have step : Keeps q shape (fun a => q.sound → ok a) (do
      if engine.settings.debug then
        logPassedThrough engine (names (engine.filters.atMoment run.moment) run.scope.names)
      lift (value (engine.filters.atMoment run.moment) run.scope.names)) := by
    have lifted : Keeps q shape (fun a => q.sound → ok a)
        (lift (value (engine.filters.atMoment run.moment) run.scope.names)) :=
      keeps_lift (h _ _ hr (names_yield tidy))
    cases engine.settings.debug with
    | true => exact Keeps.bind (keeps_logPassedThrough engine _) fun _ _ => lifted
    | false => exact lifted
  exact step run tidy

theorem keeps_eval {engine : Engine} (hr : engine.filters.Yields q.sound q.own) (e : Expr) :
    Keeps q shape (fun v : Value => q.sound → v.Sound) (eval engine e) :=
  keeps_evaluate hr fun _ _ hr hn => Expr.eval_evaluates hn e hr

theorem Keeps.blaming {x : Render α} (h : Keeps q shape ok x) {place : Place}
    (hp : q.placed place) : Keeps q shape ok (blaming place x) := by
  intro run tidy
  have kept := h run tidy
  unfold Render.blaming
  cases ended : x run with
  | ok a after =>
    rw [ended] at kept
    exact kept
  | error f after =>
    rw [ended] at kept
    exact ⟨kept.1.blame hp, kept.2⟩

/-- The frame of a step is gone when it ends. -/
theorem Keeps.inFrame {frame : Frame} (hf : frame.Tidy q.sound) {x : Render α}
    (h : Keeps q (frame.counts :: shape) ok x) : Keeps q shape ok (inFrame frame x) := by
  intro run tidy
  have kept := h { run with scope := .child frame run.scope } (.child hf tidy)
  unfold Render.inFrame
  cases ended : x { run with scope := .child frame run.scope } with
  | ok a after =>
    rw [ended] at kept
    exact ⟨kept.1, kept.2.leave tidy⟩
  | error f after =>
    rw [ended] at kept
    exact ⟨kept.1, kept.2.leave tidy⟩

theorem keeps_assign {name : String} {value : Native} (h : q.sound → value.Sound) :
    Keeps q shape (fun _ => True)
      (modify fun r : Run => { r with scope := r.scope.assign name value }) :=
  fun _ tidy => ⟨trivial, tidy.assign h name⟩

end Render

end Stencil
