import Stencil.Loop.Cycle
import Stencil.Proofs.Loop.Calls

/-! # Renderings that differ in what they blame

    Two renderings match if they do the same, but for what their failures
    are blamed on: from every state they come to the same result in the same
    state, or they both fail there, with failures of a relation.  Loops and
    tables match if their bodies do.  The faults of the steps themselves are
    the same on both sides, and nothing is blamed for them yet. -/

namespace Stencil

/-! ## Section 1: Matching steps -/

/-- Are the two outcomes the same, or failures of the relation in the same
    state? -/
inductive Run.Matched {α : Type} (Q : Failure → Failure → Prop) :
    EStateM.Result Failure Run α → EStateM.Result Failure Run α → Prop
  | ok (a : α) (run : Run) : Matched Q (.ok a run) (.ok a run)
  | error {f g : Failure} (run : Run) : Q f g → Matched Q (.error f run) (.error g run)

/-- Do two steps match from every state? -/
def Render.Matches {α : Type} (Q : Failure → Failure → Prop) (x y : Render α) : Prop :=
  ∀ run : Run, Run.Matched Q (x run) (y run)

namespace Render

variable {α β : Type} {Q Q' : Failure → Failure → Prop}

theorem matches_pure (a : α) : Matches Q (pure a) (pure a) :=
  fun run => .ok a run

theorem Matches.bind {x y : Render α} {f g : α → Render β} (h : Matches Q x y)
    (k : ∀ a, Matches Q (f a) (g a)) : Matches Q (x >>= f) (y >>= g) := by
  intro run
  have first := h run
  generalize left : x run = outcome at first
  generalize right : y run = outcome' at first
  cases first with
  | ok a mid =>
    rw [bind_of_ok left, bind_of_ok right]
    exact k a mid
  | error mid related =>
    rw [bind_of_error left, bind_of_error right]
    exact .error mid related

theorem Matches.mono {x y : Render α} (h : Matches Q x y) (weaker : ∀ f g, Q f g → Q' f g) :
    Matches Q' x y := by
  intro run
  have outcome := h run
  generalize x run = left at outcome ⊢
  generalize y run = right at outcome ⊢
  cases outcome with
  | ok a after => exact .ok a after
  | error after related => exact .error after (weaker _ _ related)

theorem matches_get : Matches Q get get :=
  fun run => .ok run run

theorem matches_modify (g : Run → Run) : Matches Q (modify g) (modify g) :=
  fun run => .ok () (g run)

theorem matches_debug (engine : Engine) (parts : List (Except OperandFault String)) :
    Matches Q (debug engine parts) (debug engine parts) := by
  unfold debug
  split
  · exact matches_modify _
  · exact matches_pure ()

/-- Steps inside one more frame. -/
theorem Matches.inFrame {x y : Render α} (h : Matches Q x y) (frame : Frame) :
    Matches Q (inFrame frame x) (inFrame frame y) := by
  intro run
  have inside := h { run with scope := .child frame run.scope }
  unfold Render.inFrame
  generalize x _ = left at inside ⊢
  generalize y _ = right at inside ⊢
  cases inside with
  | ok a after => exact .ok a _
  | error after related => exact .error _ related

end Render

/-! ## Section 2: Loops -/

section

variable {Q : Failure → Failure → Prop} {engine : Engine} {body body' : Render Signal}

theorem matches_forItems (h : Render.Matches Q body body') (item : String) (length : Nat)
    (vs : List Value) (i : Nat) :
    Render.Matches Q (forItems engine item length body i vs)
      (forItems engine item length body' i vs) := by
  induction vs generalizing i with
  | nil => exact Render.matches_pure ()
  | cons v vs ih =>
    apply (h.inFrame _).bind
    intro signal
    split
    · exact Render.matches_debug engine _
    · exact ih (i + 1)

theorem matches_openCell (position : LoopPosition) (cols : Int) :
    Render.Matches Q (openCell position cols) (openCell position cols) := by
  have write (piece : String) : Render.Matches Q (Render.write piece) (Render.write piece) :=
    Render.matches_modify _
  unfold openCell
  split
  · split
    · exact (write _).bind fun _ => (write _).bind fun _ => write _
    · exact (write _).bind fun _ => write _
  · exact write _

theorem matches_tableItems (h : Render.Matches Q body body') (item : String) (length cols : Nat)
    (vs : List Value) (i : Nat) :
    Render.Matches Q (tableItems item length cols body i vs)
      (tableItems item length cols body' i vs) := by
  induction vs generalizing i with
  | nil => exact Render.matches_pure ()
  | cons v vs ih =>
    apply (matches_openCell _ _).bind
    intro _
    apply (h.inFrame _).bind
    intro signal
    apply (Render.matches_modify _).bind
    intro _
    split
    · exact Render.matches_pure ()
    · exact ih (i + 1)

variable (own : ∀ fault : Fault, Q fault.failure fault.failure)

include own

namespace Render

variable {α : Type}

theorem matches_lift (x : Except Fault α) : Matches Q (lift x) (lift x) := by
  cases x with
  | ok a => exact matches_pure a
  | error fault => exact fun run => .error run (own fault)

theorem matches_evaluate (value : Registry → Names → Except Fault α)
    (names : Registry → Names → List String) :
    Matches Q (evaluate engine value names) (evaluate engine value names) := by
  intro run
  obtain ⟨after, -, ended⟩ := evaluate_ends engine value names run
  rw [ended]
  exact matches_lift own _ after

end Render

theorem matches_forValues (h : LoopHeader) :
    Render.Matches Q (forValues engine h) (forValues engine h) := by
  apply (Render.matches_evaluate own _ _).bind
  intro walked
  apply (Render.matches_lift own _).bind
  intro length
  apply (Render.matches_debug engine _).bind
  intro _
  apply (Render.matches_lift own _).bind
  intro _
  exact Render.matches_lift own _

theorem matches_tableEntry (h : LoopHeader) :
    Render.Matches Q (tableEntry engine h) (tableEntry engine h) := by
  apply (Render.matches_evaluate own _ _).bind
  intro walked
  apply (Render.matches_lift own _).bind
  intro count
  apply (Render.matches_lift own _).bind
  intro _
  apply (Render.matches_lift own _).bind
  intro items
  apply (Render.matches_evaluate own _ _).bind
  intro given
  exact (Render.matches_debug engine _).bind fun _ => Render.matches_pure _

theorem matches_runFor {alternative alternative' : Render Signal} (h : LoopHeader)
    (inside : Render.Matches Q body body') (other : Render.Matches Q alternative alternative') :
    Render.Matches Q (runFor engine h body (some alternative))
      (runFor engine h body' (some alternative')) := by
  apply (matches_forValues own h).bind
  intro items
  cases items with
  | nil => exact other
  | cons v vs =>
    apply ((matches_forItems inside _ _ _ _).inFrame .loop).bind
    exact fun _ => Render.matches_pure _

theorem matches_runTable (h : LoopHeader) (inside : Render.Matches Q body body') :
    Render.Matches Q (runTable engine h body) (runTable engine h body') := by
  rw [runTable_eq, runTable_eq]
  apply (matches_tableEntry own h).bind
  rintro ⟨items, cols⟩
  cases items with
  | nil => exact Render.matches_pure _
  | cons v vs =>
    apply ((matches_tableItems inside _ _ _ _ _).inFrame .loop).bind
    intro _
    exact (Render.matches_modify _).bind fun _ => Render.matches_pure _

theorem matches_runCycle (c : Cycle) : Render.Matches Q (runCycle c) (runCycle c) := by
  apply Render.matches_get.bind
  intro run
  apply (Render.matches_lift own _).bind
  intro counters
  apply (Render.matches_lift own _).bind
  intro next
  apply (Render.matches_modify _).bind
  exact fun _ => Render.matches_lift own _

end

end Stencil
