import Stencil.Proofs.Value.Outcome
import Stencil.Scope.Basic

/-! # Tidy scopes

    The invariant of the scopes that a rendering goes through.  Whatever is
    bound is sound, and whatever note of counters is found holds integers
    only.  Which of the frames have counters never changes while they are
    on the chain, so a list of booleans, the shape, tells it for the whole
    chain. -/

namespace Stencil

variable {sound : Prop}

/-! ## Section 1: Bindings -/

namespace Bindings

theorem of_mem_put {bs : Bindings} {key : String} {value : Native} {b : String × Native}
    (h : b ∈ bs.put key value) : b ∈ bs ∨ b.2 = value := by
  induction bs with
  | nil =>
    rw [List.mem_singleton.1 h]
    exact .inr rfl
  | cons c bs ih =>
    obtain ⟨k, v⟩ := c
    unfold put at h
    split at h
    · rcases List.mem_cons.1 h with rfl | h
      · exact .inr rfl
      · exact .inl (List.mem_cons_of_mem _ h)
    · rcases List.mem_cons.1 h with rfl | h
      · exact .inl List.mem_cons_self
      · exact (ih h).imp (List.mem_cons_of_mem _) id

theorem lookup_put_self (bs : Bindings) (key : String) (value : Native) :
    (bs.put key value).lookup key = some value := by
  induction bs with
  | nil => simp [put]
  | cons c bs ih =>
    obtain ⟨k, v⟩ := c
    unfold put
    by_cases same : k = key
    · simp [same]
    · have other : (key == k) = false := by simpa using Ne.symm same
      simp only [same, if_false, List.lookup_cons, other]
      exact ih

theorem lookup_put_of_ne (bs : Bindings) {key name : String} (h : name ≠ key) (value : Native) :
    (bs.put key value).lookup name = bs.lookup name := by
  induction bs with
  | nil => rw [put, List.lookup_cons, beq_false_of_ne h]
  | cons c bs ih =>
    obtain ⟨k, v⟩ := c
    unfold put
    by_cases same : k = key
    · subst same
      rw [if_pos rfl, List.lookup_cons, List.lookup_cons, beq_false_of_ne h]
    · rw [if_neg same, List.lookup_cons, List.lookup_cons, ih]

/-- Do all names stand for sound data? -/
def Sound (bs : Bindings) : Prop :=
  ∀ b ∈ bs, b.2.Sound

theorem sound_put {bs : Bindings} (h : bs.Sound) {value : Native} (hv : value.Sound)
    (key : String) : (bs.put key value).Sound := by
  intro b hb
  rcases of_mem_put hb with hb | rfl
  · exact h b hb
  · exact hv

theorem sound_of {pairs : List (String × Native)} (h : ∀ b ∈ pairs, b.2.Sound) :
    (Bindings.of pairs).Sound := by
  have start : Sound [] := nofun
  exact List.foldlRecOn pairs _ start fun bs hbs b hb => sound_put hbs (h b hb) b.1

theorem sound_of_lookup {bs : Bindings} (h : bs.Sound) {key : String} {value : Native}
    (found : bs.lookup key = some value) : value.Sound := by
  obtain ⟨before, after, rfl, -⟩ := List.lookup_eq_some_iff.1 found
  exact h (key, value) (by simp)

end Bindings

/-! ## Section 2: Frames -/

/-- Are these counters of cycles? -/
def AreCounters (entries : List (Native × Native)) : Prop :=
  ∀ e ∈ entries, ∃ n, e.2 = .int n

/-- What holds of the keys and of the values of a dictionary still does when
    such a value is stored under such a key. -/
theorem Native.forall_mem_store {P Q : Native → Prop} {entries : List (Native × Native)}
    (h : ∀ e ∈ entries, P e.1 ∧ Q e.2) {key value : Native} (hk : P key) (hv : Q value) :
    ∀ e ∈ store entries key value, P e.1 ∧ Q e.2 := by
  induction entries with
  | nil =>
    intro e he
    rw [List.mem_singleton.1 he]
    exact ⟨hk, hv⟩
  | cons e rest ih =>
    obtain ⟨first, later⟩ := List.forall_mem_cons.1 h
    rw [store]
    split
    · -- the key stays the one that was there
      exact List.forall_mem_cons.2 ⟨⟨first.1, hv⟩, later⟩
    · exact List.forall_mem_cons.2 ⟨first, ih later⟩

namespace AreCounters

theorem store {entries : List (Native × Native)} (h : AreCounters entries) (key : Native)
    (n : Int) : AreCounters (Native.store entries key (.int n)) := by
  have counters : ∀ e ∈ entries, True ∧ ∃ n, e.2 = .int n := fun e he => ⟨trivial, h e he⟩
  have stored : ∀ e ∈ Native.store entries key (.int n), True ∧ ∃ n, e.2 = .int n :=
    Native.forall_mem_store (P := fun _ => True) (Q := fun v => ∃ n, v = .int n) counters
      trivial ⟨n, rfl⟩
  exact fun e he => (stored e he).2

theorem count {entries : List (Native × Native)} (h : AreCounters entries) (key : Native) :
    ∃ n, (Native.lookup? entries key).getD (.int 0) = .int n := by
  cases found : Native.lookup? entries key with
  | none => exact ⟨0, rfl⟩
  | some value =>
    obtain ⟨e, he, rfl⟩ := Option.map_eq_some_iff.1 found
    exact h e (List.mem_of_find?_eq_some he)

end AreCounters

namespace Frame

/-- Does the frame have counters of cycles? -/
def counts (f : Frame) : Bool :=
  (f.notes.lookup countersNote).isSome

/-- Are the data in the frame sound, and its counters integers? -/
structure Tidy (sound : Prop) (f : Frame) : Prop where
  bindings : sound → f.bindings.Sound
  counters : ∀ note, f.notes.lookup countersNote = some note →
    ∃ entries, note = .dict entries ∧ AreCounters entries

theorem note?_counters (f : Frame) : f.note? countersNote = f.notes.lookup countersNote :=
  if_neg (by decide)

theorem tidy_durable {bs : Bindings} (h : sound → bs.Sound) : (durable bs).Tidy sound :=
  ⟨h, nofun⟩

theorem tidy_passing {bs : Bindings} (h : sound → bs.Sound) : (passing bs).Tidy sound :=
  ⟨h, nofun⟩

theorem tidy_loop : loop.Tidy sound := by
  refine ⟨fun _ => nofun, fun note found => ?_⟩
  cases (found : some (.dict []) = some note)
  exact ⟨[], rfl, nofun⟩

theorem Tidy.put {f : Frame} (h : f.Tidy sound) {value : Native} (hv : sound → value.Sound)
    (key : String) : Tidy sound { f with bindings := f.bindings.put key value } :=
  ⟨fun holds => Bindings.sound_put (h.bindings holds) (hv holds) key, h.counters⟩

theorem Tidy.putCounters {f : Frame} (h : f.Tidy sound) {entries : List (Native × Native)}
    (he : AreCounters entries) : (f.putNote countersNote (.dict entries)).Tidy sound := by
  refine ⟨h.bindings, fun note found => ?_⟩
  have same : some (Native.dict entries) = some note := by
    rw [← found]
    exact (Bindings.lookup_put_self _ _ _).symm
  cases same
  exact ⟨entries, rfl, he⟩

theorem counts_putCounters (f : Frame) (note : Native) :
    (f.putNote countersNote note).counts = true := by
  show ((f.notes.put countersNote note).lookup countersNote).isSome = true
  rw [Bindings.lookup_put_self]
  rfl

end Frame

/-! ## Section 3: Chains of frames -/

namespace Scope

/-- Are the frames of a chain tidy, and does its shape tell which of them
    have counters? -/
inductive Tidy (sound : Prop) : List Bool → Scope → Prop
  | root {f : Frame} : f.Tidy sound → Tidy sound [f.counts] (root f)
  | child {f : Frame} {shape : List Bool} {parent : Scope} :
      f.Tidy sound → Tidy sound shape parent → Tidy sound (f.counts :: shape) (child f parent)

variable {shape : List Bool} {s : Scope}

theorem tidy_ofBindings {bs : Bindings} (h : sound → bs.Sound) :
    Tidy sound [false] (ofBindings bs) :=
  .root (f := .durable bs) (Frame.tidy_durable h)

theorem Tidy.assign (h : Tidy sound shape s) {value : Native} (hv : sound → value.Sound)
    (key : String) : Tidy sound shape (s.assign key value) := by
  induction h with
  | root hf => exact .root (hf.put hv key)
  | child hf hp ih =>
    rw [Scope.assign]
    split
    · exact .child hf ih
    · exact .child (hf.put hv key) hp

/-- Going back to the frames outside the innermost one. -/
theorem Tidy.leave {b : Bool} {inner : Scope} (h : Tidy sound (b :: shape) inner)
    (outer : Tidy sound shape s) : Tidy sound shape inner.leave := by
  cases h with
  | root hf => cases outer
  | child hf hp => exact hp

theorem Tidy.sound_get? (h : Tidy sound shape s) (holds : sound) {key : String} {value : Native}
    (found : s.get? key = some value) : value.Sound := by
  induction h with
  | root hf => exact Bindings.sound_of_lookup (hf.bindings holds) found
  | child hf _ ih =>
    rw [get?] at found
    split at found
    next here =>
      cases found
      exact Bindings.sound_of_lookup (hf.bindings holds) here
    next => exact ih found

/-- The counters at hand, if there are any. -/
theorem Tidy.note?_counters (h : Tidy sound shape s) {note : Native}
    (found : s.note? countersNote = some note) :
    true ∈ shape ∧ ∃ entries, note = .dict entries ∧ AreCounters entries := by
  -- on the frames from the inside, up to the first one with counters
  induction h with
  | root hf =>
    rw [note?, Frame.note?_counters] at found
    refine ⟨List.mem_singleton.2 ?_, hf.counters note found⟩
    rw [Frame.counts, found]
    rfl
  | @child f _ _ hf _ ih =>
    rw [note?, Frame.note?_counters] at found
    split at found
    next here =>
      cases found
      have counting : f.counts = true := by
        rw [Frame.counts, here]
        rfl
      exact ⟨counting ▸ List.mem_cons_self, hf.counters note here⟩
    next => exact ⟨List.mem_cons_of_mem _ (ih found).1, (ih found).2⟩

/-- Inside a loop there are counters at hand. -/
theorem Tidy.exists_counters (h : Tidy sound shape s) (counting : true ∈ shape) :
    ∃ note, s.note? countersNote = some note := by
  induction h with
  | @root f _ =>
    rw [note?, Frame.note?_counters]
    exact Option.isSome_iff_exists.1 (List.mem_singleton.1 counting).symm
  | @child f _ _ _ _ ih =>
    rw [note?, Frame.note?_counters]
    cases here : f.notes.lookup countersNote with
    | some note => exact ⟨note, rfl⟩
    | none =>
      rcases List.mem_cons.1 counting with same | outside
      · rw [Frame.counts, here] at same
        cases same
      · exact ih outside

theorem Tidy.putCounters (h : Tidy sound shape s) (counting : true ∈ shape)
    {entries : List (Native × Native)} (he : AreCounters entries) :
    Tidy sound shape (s.putNote countersNote (.dict entries)) := by
  induction h with
  | @root f hf =>
    rw [putNote, ← List.mem_singleton.1 counting, ← f.counts_putCounters (.dict entries)]
    exact .root (hf.putCounters he)
  | @child f _ _ hf hp ih =>
    rw [putNote, Frame.note?_counters]
    split
    next here =>
      have counts : f.counts = true := here
      rw [counts, ← f.counts_putCounters (.dict entries)]
      exact .child (hf.putCounters he) hp
    next absent =>
      refine .child hf (ih ?_)
      rcases List.mem_cons.1 counting with same | outside
      · exact absurd same.symm absent
      · exact outside

end Scope

end Stencil
