import Stencil.Proofs.Filter.Standard
import Stencil.Loop.Items

/-! # What evaluation gives and fails with

    An expression has a sound value where names stand for sound data.  Its
    evaluation fails with an ordinary fault, over an undefined filter, or
    with what a filter of the host raises. -/

namespace Stencil

variable {sound : Prop} {own : Fault → Prop}

/-! ## Section 1: Applying filters -/

/-- Is this what an evaluation may fail with, where `own` are the faults
    that filters of the host raise? -/
def Fault.Arises (sound : Prop) (own : Fault → Prop) (f : Fault) : Prop :=
  f.IsOrdinary sound ∨ (∃ name, f = .undefinedFilter name) ∨ own f

/-- Does a step of an evaluation keep to this? -/
def Evaluates {α : Type} (sound : Prop) (own : Fault → Prop) (ok : α → Prop)
    (x : Except Fault α) : Prop :=
  Meets (fun a => sound → ok a) (Fault.Arises sound own) x

section

variable {α β : Type} {ok : α → Prop}

theorem Meets.evaluates {x : Except Fault α}
    (h : Meets (fun a => sound → ok a) (Fault.IsOrdinary sound) x) :
    Evaluates sound own ok x :=
  h.mono (fun _ ha => ha) fun _ he => .inl he

theorem Meets.evaluates_true {x : Except Fault α}
    (h : Meets (fun _ => True) (Fault.IsOrdinary sound) x) :
    Evaluates sound own (fun _ => True) x :=
  h.mono (fun _ _ _ => trivial) fun _ he => .inl he

theorem Evaluates.bind {ok' : β → Prop} {x : Except Fault α} {f : α → Except Fault β}
    (h : Evaluates sound own ok x)
    (k : ∀ a, (sound → ok a) → Evaluates sound own ok' (f a)) : Evaluates sound own ok' (x >>= f) :=
  Meets.bind h k

end

theorem Native.sound_locate {n : Native} (h : n.Sound) (site : Double.Site) :
    (n.locate site).Sound := by
  unfold Native.locate
  split
  · exact trivial
  · exact h

namespace Registry

/-- The fault of a filter is an evaluation error, or the filter raised it
    on its own. -/
theorem conclude_evaluates (name : String) (site : Double.Site) {x : Except Fault Native}
    (h : Meets (fun n : Native => sound → n.Sound)
      (fun fault => (∃ cause : OperandFault, fault = .operand cause ∧ cause.IsShown) ∨ own fault)
      x) :
    Evaluates sound own Value.Sound (conclude name site x) := by
  unfold conclude
  -- in the order of the definition: a result, two ways to fail on an operand, another fault
  split
  next n =>
    have given := h.of_ok rfl
    exact Meets.evaluates (Native.wrap_meets fun holds => Native.sound_locate (given holds) site)
  next =>
    refine .error (.inr (.inr ?_))
    obtain ⟨cause, same, shown⟩ | raised := h.of_error rfl
    · cases same
      exact absurd rfl shown
    · exact raised
  next => exact .error (.inl trivial)
  next fault _ notOperand =>
    refine .error (.inr (.inr ?_))
    obtain ⟨cause, same, -⟩ | raised := h.of_error rfl
    · exact absurd same (notOperand cause)
    · exact raised

theorem invoke_evaluates {r : Registry} (h : r.Yields sound own) (name : String)
    {receiver : Value} (hr : sound → receiver.Sound) {args : List Value}
    (ha : sound → ∀ v ∈ args, v.Sound) :
    Evaluates sound own Value.Sound (r.invoke name receiver args) := by
  unfold invoke
  split
  next f found =>
    refine conclude_evaluates name r.site (h name f found _ _ hr fun holds n hn => ?_)
    obtain ⟨v, hv, rfl⟩ := List.mem_map.1 hn
    exact ha holds v hv
  next =>
    split
    · exact .error (.inr (.inl ⟨name, rfl⟩))
    · exact .ok hr

end Registry

/-! ## Section 2: Expressions -/

/-- Do names stand for sound data, as far as they can be looked up? -/
def Names.Yield (sound : Prop) (own : Fault → Prop) (names : Names) : Prop :=
  ∀ name, Evaluates sound own Native.Sound (names name)

theorem Literal.sound_value (l : Literal) : l.value.Sound := by
  cases l <;> exact trivial

namespace Expr

variable {names : Names}

mutual

theorem eval_evaluates (hn : names.Yield sound own) : (e : Expr) → {r : Registry} →
    r.Yields sound own → Evaluates sound own Value.Sound (e.eval r names)
  | .literal l, _, _ => by
    rw [eval]
    exact .ok fun _ => l.sound_value
  | .var name, _, _ => by
    rw [eval]
    exact Evaluates.bind (hn name) fun n h => Meets.evaluates (Native.wrap_meets h)
  | .property object name, _, hr => by
    rw [eval]
    refine Evaluates.bind (eval_evaluates hn object hr) fun v hv => ?_
    exact Meets.evaluates (Value.property_meets hv name)
  | .index object key, _, hr => by
    rw [eval]
    refine Evaluates.bind (eval_evaluates hn object hr) fun v hv => ?_
    refine Evaluates.bind (eval_evaluates hn key hr) fun k _ => ?_
    exact Meets.evaluates (Value.index_meets hv k)
  | .range low high, _, hr => by
    rw [eval]
    refine Evaluates.bind (eval_evaluates hn low hr) fun v _ => ?_
    refine Evaluates.bind (Meets.evaluates_true (Value.toInt_meets v)) fun a _ => ?_
    refine Evaluates.bind (eval_evaluates hn high hr) fun w _ => ?_
    refine Evaluates.bind (Meets.evaluates_true (Value.toInt_meets w)) fun b _ => ?_
    exact .ok fun _ => trivial
  | .compare relation left right, _, hr => by
    rw [eval]
    refine Evaluates.bind (eval_evaluates hn left hr) fun a ha => ?_
    refine Evaluates.bind (eval_evaluates hn right hr) fun b hb => ?_
    refine Evaluates.bind (Meets.evaluates_true (relation.holds_meets ha hb)) fun _ _ => ?_
    exact .ok fun _ => trivial
  | .and left right, _, hr => by
    rw [eval]
    refine Evaluates.bind (eval_evaluates hn left hr) fun a _ => ?_
    refine Evaluates.bind (Meets.evaluates_true (Value.truth_meets a)) fun t _ => ?_
    cases t with
    | false => exact .ok fun _ => trivial
    | true =>
      refine Evaluates.bind (eval_evaluates hn right hr) fun b _ => ?_
      refine Evaluates.bind (Meets.evaluates_true (Value.truth_meets b)) fun _ _ => ?_
      exact .ok fun _ => trivial
  | .or left right, _, hr => by
    rw [eval]
    refine Evaluates.bind (eval_evaluates hn left hr) fun a _ => ?_
    refine Evaluates.bind (Meets.evaluates_true (Value.truth_meets a)) fun t _ => ?_
    cases t with
    | true => exact .ok fun _ => trivial
    | false =>
      refine Evaluates.bind (eval_evaluates hn right hr) fun b _ => ?_
      refine Evaluates.bind (Meets.evaluates_true (Value.truth_meets b)) fun _ _ => ?_
      exact .ok fun _ => trivial
  | .filter receiver name args, r, hr => by
    rw [eval]
    refine Evaluates.bind (eval_evaluates hn receiver (r := r.first) hr) fun v hv => ?_
    refine Evaluates.bind (evalAll_evaluates hn args (r := r.others) hr) fun vs hvs => ?_
    exact Registry.invoke_evaluates hr name hv hvs

theorem evalAll_evaluates (hn : names.Yield sound own) : (es : List Expr) → {r : Registry} →
    r.Yields sound own →
    Evaluates sound own (fun vs => ∀ v ∈ vs, Value.Sound v) (evalAll r names es)
  | [], _, _ => by
    rw [evalAll]
    exact .ok fun _ => by simp
  | e :: es, r, hr => by
    rw [evalAll]
    refine Evaluates.bind (eval_evaluates hn e (r := r.first) hr) fun v hv => ?_
    refine Evaluates.bind (evalAll_evaluates hn es (r := r.others) hr) fun vs hvs => ?_
    exact .ok fun holds => List.forall_mem_cons.2 ⟨hv holds, hvs holds⟩

end

end Expr

/-! ## Section 3: The items of loops -/

/-- Is all that a loop walks along sound? -/
def Value.Source.Sound : Value.Source → Prop
  | .items ns => ∀ n ∈ ns, n.Sound
  | .range _ => True

namespace Value.Source

theorem sound_drop {s : Source} (h : s.Sound) (n : Nat) : (s.drop n).Sound := by
  cases s with
  | items ns => exact fun m hm => h m (List.mem_of_mem_drop hm)
  | range r => exact trivial

theorem sound_take {s : Source} (h : s.Sound) (n : Nat) : (s.take n).Sound := by
  cases s with
  | items ns => exact fun m hm => h m (List.mem_of_mem_take hm)
  | range r => exact trivial

theorem sound_reverse {s : Source} (h : s.Sound) : s.reverse.Sound := by
  cases s with
  | items ns => exact fun m hm => h m (List.mem_reverse.1 hm)
  | range r => exact trivial

theorem count_evaluates (s : Source) : Evaluates sound own (fun _ => True) s.count := by
  cases s with
  | items ns => exact .ok fun _ => trivial
  | range r => exact Meets.evaluates_true r.count_meets

theorem values_evaluates {s : Source} (h : sound → s.Sound) :
    Evaluates sound own (fun vs => ∀ v ∈ vs, Value.Sound v) s.values := by
  cases s with
  | items ns =>
    exact Meets.evaluates (wrapAll_meets fun holds => Native.soundItems_iff.2 (h holds))
  | range r =>
    refine .ok fun _ v hv => ?_
    obtain ⟨i, -, rfl⟩ := List.mem_map.1 hv
    exact sound_ofInt i

end Value.Source

theorem Value.source_evaluates {v : Value} (h : sound → v.Sound) :
    Evaluates sound own Source.Sound v.source := by
  unfold source
  split
  · exact .ok fun holds => Native.sound_list.1 (h holds)
  · exact .ok fun _ => Native.soundItems_iff.1 (Native.soundItems_ints _)
  · exact .ok fun _ => trivial
  · refine .ok fun _ n hn => ?_
    split at hn
    · simp at hn
    · rw [List.mem_singleton.1 hn]
      exact trivial
  next entries =>
    -- a mapping is walked along by its keys, which are wrapped first
    have keys : sound → Native.SoundItems (entries.map (·.1)) := by
      intro holds
      rw [Native.soundItems_iff]
      intro n hn
      obtain ⟨e, he, rfl⟩ := List.mem_map.1 hn
      exact (Native.sound_dict.1 (h holds) e he).1
    refine Evaluates.bind (Meets.evaluates (wrapAll_meets keys)) fun vs hvs => ?_
    refine .ok fun holds n hn => ?_
    obtain ⟨w, hw, rfl⟩ := List.mem_map.1 hn
    exact hvs holds w hw
  · exact .ok fun _ => by simp [Source.Sound]

section

variable {filters : Registry} {names : Names}

theorem modifierCount_evaluates (hr : filters.Yields sound own) (hn : names.Yield sound own)
    (name : String) (count : Option Expr) :
    Evaluates sound own (fun _ => True) (modifierCount filters names name count) := by
  unfold modifierCount
  split
  · exact .ok fun _ => trivial
  next e =>
    refine Evaluates.bind (Expr.eval_evaluates hn e hr) fun v _ => ?_
    split
    · exact .ok fun _ => trivial
    · exact .error (.inl trivial)
    next fault _ failed => exact .error (.inl ((Value.toInt_meets v).of_error failed))

/-- What a limit keeps is sound, in either order. -/
theorem Value.Source.sound_kept {later : Value.Source} (h : later.Sound) (limit : Option Nat)
    (reversed : Bool) :
    (if reversed then (limit.elim later later.take).reverse else limit.elim later later.take).Sound := by
  have kept : (limit.elim later later.take).Sound := by
    cases limit with
    | none => exact h
    | some n => exact Value.Source.sound_take h n
  split
  · exact Value.Source.sound_reverse kept
  · exact kept

theorem LoopHeader.walked_evaluates (hr : filters.Yields sound own)
    (hn : names.Yield sound own) (h : LoopHeader) :
    Evaluates sound own Value.Source.Sound (h.walked filters names) := by
  refine Evaluates.bind (Expr.eval_evaluates hn h.source hr) fun v hv => ?_
  refine Evaluates.bind (Value.source_evaluates hv) fun all hall => ?_
  refine Evaluates.bind (modifierCount_evaluates hr hn "offset" h.offset) fun offset _ => ?_
  refine Evaluates.bind (modifierCount_evaluates hr hn "limit" h.limit) fun limit _ => ?_
  refine .ok fun holds => ?_
  -- an offset of zero and none at all both drop nothing
  have later : Value.Source.Sound (offset.elim all fun n => if n = 0 then all else all.drop n) := by
    cases offset with
    | none => exact hall holds
    | some n =>
      show Value.Source.Sound (if n = 0 then all else all.drop n)
      split
      · exact hall holds
      · exact Value.Source.sound_drop (hall holds) n
  have all := Value.Source.sound_kept later limit h.reversed
  rcases offset with _ | _ | n <;> rcases limit with _ | m <;> exact all

end

end Stencil
