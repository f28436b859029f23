import Stencil.Proofs.Computation
import Stencil.Value.Access

/-! # What operations on values may fail with

    Every operation on values meets a specification of two halves: what
    holds of its result, and what holds of its fault.  The faults are
    ordinary: evaluation errors, or one of the limits of the host, which
    nothing guards.  One more fault is possible only for unsound data, a
    table without columns; the proposition `sound` says whether the data
    at hand is promised to be free of it. -/

namespace Stencil

/-! ## Section 1: Ordinary faults -/

/-- The limits of the host that nothing guards: a range with too many
    members to count, and integers with too many digits, or with padding
    that is no white space to the host, in their texts. -/
def OperandFault.IsUnguarded : OperandFault → Prop
  | .lengthTooLarge => True
  | .numeral .tooLong | .numeral (.tooManyDigits _) | .numeral (.notInteger _) => True
  | _ => False

/-- Is this what an operation on values may fail with? -/
def Fault.IsOrdinary (sound : Prop) : Fault → Prop
  | .evaluation _ => True
  | .operand cause => cause.IsUnguarded ∨ (cause = .remainderByZero ∧ ¬ sound)
  | _ => False

/-! ## Section 2: Sound data -/

mutual

/-- Does the datum hold no table without columns? -/
def Native.Sound : Native → Prop
  | .list items => Native.SoundItems items
  | .dict entries => Native.SoundEntries entries
  | .loop p => p.cols ≠ some 0
  | _ => True

/-- Is every item of a list sound? -/
def Native.SoundItems : List Native → Prop
  | [] => True
  | n :: ns => n.Sound ∧ Native.SoundItems ns

/-- Are all keys and values of some entries sound? -/
def Native.SoundEntries : List (Native × Native) → Prop
  | [] => True
  | (k, v) :: rest => k.Sound ∧ v.Sound ∧ Native.SoundEntries rest

end

namespace Native

theorem soundItems_iff {ns : List Native} : SoundItems ns ↔ ∀ n ∈ ns, n.Sound := by
  induction ns with
  | nil => simp [SoundItems]
  | cons n ns ih => simp [SoundItems, ih]

theorem soundEntries_iff {entries : List (Native × Native)} :
    SoundEntries entries ↔ ∀ e ∈ entries, e.1.Sound ∧ e.2.Sound := by
  induction entries with
  | nil => simp [SoundEntries]
  | cons e entries ih =>
    obtain ⟨k, v⟩ := e
    simp [SoundEntries, ih, and_assoc]

theorem sound_list {ns : List Native} : (Native.list ns).Sound ↔ ∀ n ∈ ns, n.Sound := by
  rw [Sound, soundItems_iff]

theorem sound_dict {entries : List (Native × Native)} :
    (Native.dict entries).Sound ↔ ∀ e ∈ entries, e.1.Sound ∧ e.2.Sound := by
  rw [Sound, soundEntries_iff]

theorem lookup?_cons {entries : List (Native × Native)} (k v key : Native) :
    lookup? ((k, v) :: entries) key = if same k key then some v else lookup? entries key := by
  simp only [lookup?, List.find?_cons]
  cases same k key <;> rfl

/-- What is looked up in sound entries is sound. -/
theorem sound_of_lookup? {entries : List (Native × Native)} {key value : Native}
    (h : (Native.dict entries).Sound) (found : lookup? entries key = some value) :
    value.Sound := by
  obtain ⟨e, he, rfl⟩ := Option.map_eq_some_iff.1 found
  exact (sound_dict.1 h e (List.mem_of_find?_eq_some he)).2

end Native

/-- A value is sound when its data are. -/
def Value.Sound (v : Value) : Prop :=
  v.native.Sound

/-! ## Section 3: Wrapping -/

section

variable {sound : Prop}

theorem LoopPosition.entries_meets {p : LoopPosition} (h : sound → (Native.loop p).Sound) :
    Meets (fun entries => (Native.dict entries).Sound)
      (fun cause => cause = .remainderByZero ∧ ¬ sound) p.entries := by
  unfold LoopPosition.entries
  split
  · refine .ok ?_
    simp [loopEntries, Native.Sound, Native.SoundEntries]
  · next cols hcols =>
    split
    · next zero =>
      refine .error ⟨rfl, fun holds => h holds ?_⟩
      rw [hcols, zero]
    · refine .ok ?_
      simp [loopEntries, tableEntries, Native.Sound, Native.SoundEntries]

theorem Native.wrap_meets {n : Native} (h : sound → n.Sound) :
    Meets (fun v : Value => sound → v.Sound) (Fault.IsOrdinary sound) n.wrap := by
  cases n with
  | loop p =>
    refine Meets.mapError (Meets.map (LoopPosition.entries_meets h) fun entries hs _ => hs) ?_
    exact fun cause hc => .inr hc
  | date d => exact .error trivial
  | _ => exact .ok h

theorem Progression.count_meets (r : Progression) :
    Meets (fun _ => True) (Fault.IsOrdinary sound) r.count := by
  unfold Progression.count
  split
  · exact .ok trivial
  · exact .error (.inl trivial)

end

end Stencil
