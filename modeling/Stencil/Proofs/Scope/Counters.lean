import Stencil.Loop.Cycle
import Stencil.Proofs.Scope.Tidy

/-! # Counters of cycles

    Executions are counted under the key of the cycle: the name of its
    group, or all its texts if it has none.  Keys are the same datum only if
    they are equal, so counting under one leaves the others alone.  Of the
    frames on a chain, only the innermost one with counters is ever counted
    in. -/

namespace Stencil

/-! ## Section 1: Keys -/

/-- Are executions of two cycles counted together? -/
def Cycle.Shares (c d : Cycle) : Prop :=
  c.group = d.group ∧ (c.group = "" → c.values = d.values)

instance (c d : Cycle) : Decidable (c.Shares d) :=
  inferInstanceAs (Decidable (_ ∧ _))

theorem Native.sameItems_text (as bs : List String) :
    sameItems (as.map .text) (bs.map .text) = decide (as = bs) := by
  induction as generalizing bs with
  | nil => cases bs <;> rfl
  | cons a as ih =>
    cases bs with
    | nil => rfl
    | cons b bs =>
      rw [List.map_cons, List.map_cons, sameItems, ih, same, ← Bool.decide_and]
      exact decide_eq_decide.2 List.cons_eq_cons.symm

theorem Cycle.texts_inj (c d : Cycle) :
    c.values.map Native.text = d.values.map .text ↔ c.values = d.values :=
  List.map_inj_right fun _ _ => Native.text.inj

theorem Cycle.key_eq_iff (c d : Cycle) : c.key = d.key ↔ c.Shares d := by
  unfold key Shares
  by_cases hc : c.group = "" <;> by_cases hd : d.group = ""
  · simp [hc, hd, texts_inj]
  · simp [hc, hd, Ne.symm hd]
  · simp [hc, hd]
  · simp [hc, hd]

/-- Two keys of cycles are the same datum only if they are equal. -/
theorem Cycle.same_key (c d : Cycle) : Native.same c.key d.key = decide (c.Shares d) := by
  unfold key Shares
  -- the name of a group is a text, and never the same datum as a tuple of texts
  by_cases hc : c.group = "" <;> by_cases hd : d.group = ""
  · simp [hc, hd, Native.same, Native.sameItems_text]
  · simp [hc, hd, Native.same, Ne.symm hd]
  · simp [hc, hd, Native.same]
  · simp [hc, hd, Native.same]

/-! ## Section 2: Counting under keys -/

/-- Do these counters count what the function tells under the key of each
    cycle, and nothing else? -/
structure CountsAs (entries : List (Native × Native)) (count : Cycle → Nat) : Prop where
  keyed : ∀ e ∈ entries, ∃ c : Cycle, e.1 = c.key
  counted : ∀ c : Cycle, (Native.lookup? entries c.key).getD (.int 0) = .int (count c)

theorem countsAs_nil : CountsAs [] fun _ => 0 :=
  ⟨nofun, fun _ => rfl⟩

namespace Native

variable {entries : List (Native × Native)}

theorem keyed_store (keyed : ∀ e ∈ entries, ∃ c : Cycle, e.1 = c.key) (c : Cycle) (v : Native) :
    ∀ e ∈ store entries c.key v, ∃ d : Cycle, e.1 = d.key := by
  have keys : ∀ e ∈ entries, (∃ d : Cycle, e.1 = d.key) ∧ True := fun e he => ⟨keyed e he, trivial⟩
  have stored : ∀ e ∈ store entries c.key v, (∃ d : Cycle, e.1 = d.key) ∧ True :=
    forall_mem_store (P := fun k => ∃ d : Cycle, k = d.key) (Q := fun _ => True) keys
      ⟨c, rfl⟩ trivial
  exact fun e he => (stored e he).1

/-- What is stored under the key of a cycle is found under that key only. -/
theorem lookup?_store (keyed : ∀ e ∈ entries, ∃ c : Cycle, e.1 = c.key) (c d : Cycle)
    (v : Native) :
    lookup? (store entries c.key v) d.key =
      if c.Shares d then some v else lookup? entries d.key := by
  induction entries with
  | nil =>
    rw [store, lookup?_cons, Cycle.same_key]
    simp
  | cons e rest ih =>
    obtain ⟨k, w⟩ := e
    rw [List.forall_mem_cons] at keyed
    obtain ⟨⟨b, rfl⟩, keyed⟩ := keyed
    rw [store, Cycle.same_key, lookup?_cons b.key w]
    -- an entry is found first if its key is that of `c`, and is passed by otherwise
    by_cases found : b.Shares c
    · rw [if_pos (decide_eq_true found), lookup?_cons, (b.key_eq_iff c).2 found, Cycle.same_key]
      by_cases here : c.Shares d <;> simp [here]
    · rw [if_neg (by simpa using found), lookup?_cons, Cycle.same_key, ih keyed]
      by_cases here : c.Shares d
      · have apart : ¬ b.Shares d := fun together =>
          found ((b.key_eq_iff c).1
            (((b.key_eq_iff d).2 together).trans ((c.key_eq_iff d).2 here).symm))
        simp [here, apart]
      · simp [here]

end Native

/-- One more execution of a cycle counts under its key. -/
theorem CountsAs.store {entries : List (Native × Native)} {count : Cycle → Nat}
    (h : CountsAs entries count) (c : Cycle) :
    CountsAs (Native.store entries c.key (.int (count c + 1 : Nat)))
      fun d => count d + if d.Shares c then 1 else 0 where
  keyed := Native.keyed_store h.keyed c _
  counted := by
    intro d
    rw [Native.lookup?_store h.keyed c d]
    by_cases shared : c.Shares d
    · have same := (c.key_eq_iff d).2 shared
      have shared' := (d.key_eq_iff c).1 same.symm
      -- one key has one entry, so both cycles have been counted alike so far
      have together : count d = count c := by
        have := (h.counted c).symm.trans (same ▸ h.counted d)
        exact (Int.ofNat.inj (Native.int.inj this)).symm
      rw [if_pos shared, if_pos shared', together]
      rfl
    · have apart : ¬ d.Shares c := fun shared' =>
        shared ((c.key_eq_iff d).1 ((d.key_eq_iff c).2 shared').symm)
      rw [if_neg shared, if_neg apart, h.counted d]
      rfl

/-- An execution gives the text at its number, over and over. -/
theorem runCycle_at {c : Cycle} {run : Run} {entries : List (Native × Native)} {n : Nat}
    (found : run.scope.note? countersNote = some (.dict entries))
    (count : (Native.lookup? entries c.key).getD (.int 0) = .int n) :
    ∃ text, c.values[n % c.values.length]? = some text ∧
      runCycle c run = .ok text { run with
        scope := run.scope.putNote countersNote
          (.dict (Native.store entries c.key (.int (n + 1 : Nat)))) } := by
  have counters : run.scope.counters = .ok entries := by
    rw [Scope.counters, found]
  have inside : n % c.values.length < c.values.length := Nat.mod_lt _ (Nat.succ_pos _)
  -- the remainder is that of an integer, which is not negative here
  have text : c.at (.int n) = .ok c.values[n % c.values.length] := by
    show Except.ok (c.values.getD ((n : Int) % c.values.length).toNat c.first) = _
    rw [← Int.natCast_emod, Int.toNat_natCast, List.getD_eq_getElem?_getD,
      List.getElem?_eq_getElem inside]
    rfl
  refine ⟨_, List.getElem?_eq_getElem inside, ?_⟩
  show EStateM.bind (Render.lift run.scope.counters) _ run = _
  rw [counters]
  show EStateM.bind (Render.lift (((Native.lookup? entries c.key).getD
    (.int 0)).successor.mapError .operand)) _ run = _
  rw [count]
  show Render.lift ((c.at (.int n)).mapError .operand) _ = _
  rw [text]
  rfl

/-! ## Section 3: The counters on a chain -/

namespace Scope

/-- The counters of each frame, from the innermost outwards. -/
def frameCounters (s : Scope) : List (Option Native) :=
  s.frames.map (·.note? countersNote)

/-- Puts counters in the place of the innermost ones; the outermost frame
    takes them if there are none. -/
def recount (note : Native) : List (Option Native) → List (Option Native)
  | [] => []
  | some _ :: outer => some note :: outer
  | [none] => [some note]
  | none :: outer => none :: recount note outer

theorem frameCounters_ne_nil (s : Scope) : s.frameCounters ≠ [] := by
  cases s <;> exact List.cons_ne_nil _ _

theorem note?_counters (s : Scope) : s.note? countersNote = s.frameCounters.findSome? id := by
  induction s with
  | root f =>
    rw [note?, frameCounters, frames, List.map_singleton, List.findSome?_cons, id]
    cases f.note? countersNote <;> rfl
  | child f s ih =>
    rw [note?, ih, frameCounters, frameCounters, frames, List.map_cons, List.findSome?_cons, id]
    cases f.note? countersNote <;> rfl

theorem recount_cons_none (note : Native) {outer : List (Option Native)} (some_frame : outer ≠ []) :
    recount note (none :: outer) = none :: recount note outer := by
  obtain ⟨c, outer, rfl⟩ := List.exists_cons_of_ne_nil some_frame
  rfl

theorem findSome?_recount (note : Native) {counters : List (Option Native)}
    (some_frame : counters ≠ []) : (recount note counters).findSome? id = some note := by
  induction counters with
  | nil => exact absurd rfl some_frame
  | cons c outer ih =>
    cases c with
    | some _ => rfl
    | none =>
      cases outer with
      | nil => rfl
      | cons d outer =>
        rw [recount_cons_none note (List.cons_ne_nil _ _), List.findSome?_cons]
        exact ih (List.cons_ne_nil _ _)

theorem recount_recount (a b : Native) (counters : List (Option Native)) :
    recount a (recount b counters) = recount a counters := by
  induction counters with
  | nil => rfl
  | cons c outer ih =>
    cases c with
    | some _ => rfl
    | none =>
      cases outer with
      | nil => rfl
      | cons d outer =>
        -- putting counters in keeps the frames, so there still is one behind
        rw [recount_cons_none b (List.cons_ne_nil _ _),
          recount_cons_none a (List.cons_ne_nil _ _), ← ih, recount_cons_none]
        cases d <;> cases outer <;> exact nofun

theorem frameCounters_assign (s : Scope) (name : String) (value : Native) :
    (s.assign name value).frameCounters = s.frameCounters := by
  induction s with
  | root f => rfl
  | child f s ih =>
    rw [assign]
    split
    · exact congrArg (_ :: ·) ih
    · rfl

theorem frameCounters_putNote (s : Scope) (note : Native) :
    (s.putNote countersNote note).frameCounters = recount note s.frameCounters := by
  have put (f : Frame) : (f.putNote countersNote note).note? countersNote = some note :=
    Bindings.lookup_put_self f.notes countersNote note
  induction s with
  | root f =>
    show [(f.putNote countersNote note).note? countersNote] = recount note [f.note? countersNote]
    rw [put]
    cases f.note? countersNote <;> rfl
  | child f s ih =>
    show (putNote (child f s) countersNote note).frameCounters =
      recount note (f.note? countersNote :: s.frameCounters)
    rw [putNote]
    -- the note goes to the first frame that has one, as in `recount`
    cases here : f.note? countersNote with
    | some _ => exact congrArg (· :: s.frameCounters) (put f)
    | none =>
      rw [recount_cons_none note s.frameCounters_ne_nil, ← ih]
      exact congrArg (· :: (s.putNote countersNote note).frameCounters) here

end Scope

end Stencil
