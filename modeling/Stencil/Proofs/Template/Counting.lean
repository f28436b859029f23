import Stencil.Proofs.Scope.Counters
import Stencil.Proofs.Template.Traced

/-! # The numbers of executions

    Of the cycles executed directly inside one entry of a loop, each gives
    the text at its number among those that are counted together with it.
    The invariant is that the innermost counters count exactly what has
    happened in the entry so far.  A loop inside has counters of its own and
    leaves those around it alone, however it ends. -/

namespace Stencil

/-! ## Section 1: Numbers -/

/-- Is this an execution of a cycle that is counted together with the given
    one? -/
def Event.counts (c : Cycle) : Event → Bool
  | .cycle d _ => c.Shares d
  | .entry _ => false

/-- How often cycles that are counted together with this one have been
    executed directly. -/
def executions (c : Cycle) (events : List Event) : Nat :=
  events.countP (Event.counts c)

/-- Does each cycle executed directly, behind what has happened before, give
    the text at its number, over and over? -/
def Numbered (past events : List Event) : Prop :=
  ∀ before c written after, events = before ++ .cycle c written :: after →
    ∃ text, c.values[executions c (past ++ before) % c.values.length]? = some text ∧
      written = [text]

theorem numbered_nil (past : List Event) : Numbered past [] := by
  intro before c written after h
  cases before <;> cases h

theorem Numbered.append {past first second : List Event} (h : Numbered past first)
    (k : Numbered (past ++ first) second) : Numbered past (first ++ second) := by
  intro before c written after split
  -- the cycle is executed in the second part, or else in the first one
  obtain ⟨more, rfl, rest⟩ | ⟨more, rfl, rest⟩ := List.append_eq_append_iff.1 split
  · rw [← List.append_assoc]
    exact k more c written after rest
  · cases more with
    | nil =>
      have here := k [] c written after rest.symm
      rwa [List.append_nil, List.append_nil] at here
    | cons event more =>
      obtain ⟨rfl, rfl⟩ := List.cons.inj rest
      exact h before c written more rfl

theorem numbered_entry (past inner : List Event) : Numbered past [.entry inner] := by
  intro before c written after split
  cases before with
  | nil => cases split
  | cons event before =>
    cases before <;> cases (List.cons.inj split).2

namespace Event

theorem not_entered_nil {entry : List Event} : ¬ Entered entry [] := by
  rintro (found | ⟨found, -⟩) <;> cases found

theorem Entered.of_append {entry first second : List Event} (h : Entered entry (first ++ second)) :
    Entered entry first ∨ Entered entry second := by
  cases h with
  | here found => exact (List.mem_append.1 found).imp .here .here
  | inside found deeper =>
    exact (List.mem_append.1 found).imp (.inside · deeper) (.inside · deeper)

theorem Entered.of_entry {entry inner : List Event} (h : Entered entry [.entry inner]) :
    entry = inner ∨ Entered entry inner := by
  cases h with
  | here found => exact .inl (Event.entry.inj (List.mem_singleton.1 found))
  | inside found deeper =>
    exact .inr (Event.entry.inj (List.mem_singleton.1 found) ▸ deeper)

end Event

/-! ## Section 2: Counters -/

namespace Scope

/-- Do the innermost counters count exactly these events? -/
def Counts (past : List Event) (s : Scope) : Prop :=
  ∃ entries, s.note? countersNote = some (.dict entries) ∧
    CountsAs entries fun c => executions c past

/-- Has the second scope the counters of the first one, in all frames but the
    innermost one with counters? -/
def KeepsOuter (s t : Scope) : Prop :=
  recount .nil t.frameCounters = recount .nil s.frameCounters

theorem Counts.congr {past : List Event} {s t : Scope} (h : s.Counts past)
    (same : t.note? countersNote = s.note? countersNote) : t.Counts past := by
  obtain ⟨entries, found, counted⟩ := h
  exact ⟨entries, same.trans found, counted⟩

theorem Counts.of_frameCounters {past : List Event} {s t : Scope} (h : s.Counts past)
    (same : t.frameCounters = s.frameCounters) : t.Counts past :=
  h.congr (by rw [note?_counters, same, ← note?_counters])

/-- Around a frame, the counters of the same frames are kept; around one with
    counters, all of them are. -/
theorem exists_of_recount {c : Option Native} {outer counters : List (Option Native)}
    (some_frame : outer ≠ []) (h : recount .nil counters = recount .nil (c :: outer)) :
    ∃ c' outer', counters = c' :: outer' ∧ outer' ≠ [] ∧
      recount .nil outer' = recount .nil outer ∧ (c = none → c' = none) ∧
      (c ≠ none → outer' = outer) := by
  -- without counters the frame is passed by, so the outer ones have been recounted
  cases c with
  | none =>
    rw [recount_cons_none _ some_frame] at h
    match counters, h with
    | [none], h => cases h
    | some _ :: _, h => cases h
    | none :: d :: outer', h =>
      exact ⟨none, d :: outer', rfl, List.cons_ne_nil _ _, (List.cons.inj h).2, fun _ => rfl,
        fun counting => absurd rfl counting⟩
  | some c =>
    match counters, h with
    | [none], h => exact absurd (List.cons.inj h).2.symm some_frame
    | some c' :: outer', h =>
      obtain rfl : outer' = outer := (List.cons.inj h).2
      exact ⟨some c', outer', rfl, some_frame, rfl, nofun, fun _ => rfl⟩
    | none :: d :: outer', h => cases (List.cons.inj h).1

/-- What has been run inside a frame leaves the frames around it as they
    are, the counters of the innermost one apart. -/
theorem KeepsOuter.of_child {f : Frame} {s t : Scope} (h : (child f s).KeepsOuter t) :
    s.KeepsOuter t.leave ∧
      (f.note? countersNote = none → t.note? countersNote = t.leave.note? countersNote) ∧
      (f.note? countersNote ≠ none → t.leave.frameCounters = s.frameCounters) := by
  obtain ⟨c', outer', shape, some_frame, kept, free, counting⟩ :=
    exists_of_recount s.frameCounters_ne_nil h
  cases t with
  | root g => exact absurd (List.cons.inj shape).2.symm some_frame
  | child g t =>
    obtain ⟨here, rfl⟩ : g.note? countersNote = c' ∧ t.frameCounters = outer' :=
      List.cons.inj shape
    refine ⟨kept, fun absent => ?_, counting⟩
    rw [note?, here, free absent]
    rfl

theorem stable_keepsOuter : Scope.Stable (fun _ => True) KeepsOuter where
  refl := fun s => rfl
  trans := fun s t u h k => k.trans h
  assign := fun s name value _ => congrArg (recount .nil) (frameCounters_assign s name value)
  count := fun s note => by
    rw [KeepsOuter, frameCounters_putNote, recount_recount]
  leave := fun f s t h => h.of_child.1

/-- A loop's counters count nothing before it begins. -/
theorem counts_nil_loop (s : Scope) : (child .loop s).Counts [] :=
  ⟨[], rfl, countsAs_nil⟩

end Scope

/-! ## Section 3: Steps -/

/-- Is what happens in a step numbered rightly?  In all loops entered on the
    way, the numbers begin anew; directly, they go on behind what the
    innermost counters have counted, and the counters keep counting. -/
structure Traced.Accounts {α : Type} (x : Traced α) : Prop where
  moves : Render.Moves (fun a b => a.scope.KeepsOuter b.scope) x.step
  entries : ∀ run entry, Event.Entered entry (x.events run) → Numbered [] entry
  numbered : ∀ (run : Run) past, run.scope.Counts past → Numbered past (x.events run)
  counts : ∀ (run : Run) past, run.scope.Counts past →
    (Render.final (x.step run)).scope.Counts (past ++ x.events run)

namespace Traced

variable {α β : Type}

/-- Steps that do not count. -/
theorem accounts_silent {x : Render α}
    (same : Render.Moves (fun a b => b.scope.frameCounters = a.scope.frameCounters) x) :
    (silent x).Accounts where
  moves := fun run => congrArg (Scope.recount .nil) (same run)
  entries := fun _ _ entered => absurd entered Event.not_entered_nil
  numbered := fun _ past _ => numbered_nil past
  counts := fun run past counted => by
    rw [silent, List.append_nil]
    exact counted.of_frameCounters (same run)

theorem accounts_pure (a : α) : (pure a : Traced α).Accounts :=
  accounts_silent fun _ => rfl

theorem Accounts.bind {x : Traced α} {f : α → Traced β} (h : x.Accounts)
    (k : ∀ a, (f a).Accounts) : (x >>= f).Accounts where
  moves := Render.Moves.bind Scope.stable_keepsOuter.run.toQuiet h.moves fun a => (k a).moves
  entries := by
    intro run entry entered
    obtain first | second := entered.of_append
    · exact h.entries run entry first
    · cases ended : x.step run with
      | ok a after =>
        rw [ended] at second
        exact (k a).entries after entry second
      | error failure after =>
        rw [ended] at second
        exact absurd second Event.not_entered_nil
  numbered := by
    intro run past counted
    have kept := h.counts run past counted
    refine (h.numbered run past counted).append ?_
    cases ended : x.step run with
    | ok a after =>
      rw [ended] at kept
      exact (k a).numbered after _ kept
    | error failure after => exact numbered_nil _
  counts := by
    intro run past counted
    have kept := h.counts run past counted
    show (Render.final ((x.step >>= fun a => (f a).step) run)).scope.Counts
      (past ++ (x.events run ++ behind (x.step run) f))
    -- a step that fails leaves the counters with what has happened up to there
    cases ended : x.step run with
    | ok a after =>
      rw [ended] at kept
      rw [Render.bind_of_ok ended, ← List.append_assoc]
      exact (k a).counts after _ kept
    | error failure after =>
      rw [ended] at kept
      rw [Render.bind_of_error ended, behind, List.append_nil]
      exact kept

theorem Accounts.blamingOption {x : Traced α} (h : x.Accounts) (place : Option Place) :
    (blamingOption place x).Accounts where
  moves := h.moves.blamingOption place
  entries := h.entries
  numbered := h.numbered
  counts := by
    intro run past counted
    have kept := h.counts run past counted
    rw [step_blamingOption]
    cases place with
    | none => exact kept
    | some p =>
      show (Render.final (Render.blaming p x.step run)).scope.Counts _
      unfold Render.blaming
      cases ended : x.step run with
      | ok a after => rwa [ended] at kept
      | error failure after => rwa [ended] at kept

theorem final_inFrame (frame : Frame) (x : Render α) (run : Run) :
    (Render.final (Render.inFrame frame x run)).scope =
      (Render.final (x { run with scope := .child frame run.scope })).scope.leave := by
  unfold Render.inFrame
  cases x { run with scope := .child frame run.scope } <;> rfl

/-- Inside a frame without counters, the counters outside go on counting. -/
theorem Accounts.inFrame {x : Traced α} (h : x.Accounts) {frame : Frame}
    (free : frame.note? countersNote = none) : (inFrame frame x).Accounts := by
  have inside {run : Run} {past : List Event} (counted : run.scope.Counts past) :
      (Scope.child frame run.scope).Counts past :=
    counted.congr (by rw [Scope.note?, free])
  refine ⟨h.moves.inFrame Scope.stable_keepsOuter.run frame, fun run => h.entries _, ?_, ?_⟩
  · exact fun run past counted => h.numbered _ past (inside counted)
  · intro run past counted
    have kept := h.counts { run with scope := .child frame run.scope } past (inside counted)
    rw [step_inFrame, final_inFrame]
    exact kept.congr ((h.moves _).of_child.2.1 free).symm

/-- A loop counts with counters of its own, and keeps those outside. -/
theorem Accounts.loop {x : Traced α} (h : x.Accounts) :
    (entry (Traced.inFrame Frame.loop x)).Accounts where
  moves := h.moves.inFrame Scope.stable_keepsOuter.run .loop
  entries := by
    intro run entry entered
    obtain rfl | deeper := Event.Entered.of_entry entered
    · -- the loop's own counters are new, so its executions are numbered from nothing
      exact h.numbered _ [] (Scope.counts_nil_loop _)
    · exact h.entries _ entry deeper
  numbered := fun run past _ => numbered_entry past _
  counts := by
    intro run past counted
    have counting : Frame.loop.note? countersNote ≠ none := nofun
    have outside : (Render.final (Render.inFrame .loop x.step run)).scope.Counts past := by
      rw [final_inFrame]
      exact counted.of_frameCounters ((h.moves _).of_child.2.2 counting)
    -- for the loop around this one, an entry is no execution of any cycle
    obtain ⟨entries, found, counts⟩ := outside
    rw [events_entry]
    refine ⟨entries, found, ?_⟩
    simpa [executions, Event.counts] using counts

/-- The executions of a cycle inside a loop. -/
theorem cycle_ends {c : Cycle} {run : Run} {past : List Event} (counted : run.scope.Counts past) :
    ∃ text after, c.values[executions c past % c.values.length]? = some text ∧
      (do Render.write (← runCycle c); return Signal.none : Render Signal) run = .ok .none after ∧
      after.out.toList.drop run.out.size = [text] ∧
      after.scope.Counts (past ++ [.cycle c [text]]) := by
  obtain ⟨entries, found, counts⟩ := counted
  obtain ⟨text, given, ran⟩ := runCycle_at found (counts.counted c)
  refine ⟨text, _, given, (Render.bind_of_ok ran).trans (Render.write_bind _ _ _), ?_, ?_⟩
  · rw [Run.out_writing, ← Array.length_toList, List.drop_left]
  · refine ⟨Native.store entries c.key (.int (executions c past + 1 : Nat)), ?_, ?_⟩
    · show (Scope.putNote _ _ _).note? countersNote = _
      rw [Scope.note?_counters, Scope.frameCounters_putNote,
        Scope.findSome?_recount _ (Scope.frameCounters_ne_nil _)]
    · have more := counts.store c
      simpa [executions, Event.counts, List.countP_append, List.countP_cons] using more

/-- An execution of a cycle writes its text at the number, and is counted. -/
theorem accounts_cycle (c : Cycle) :
    (cycle c (do Render.write (← runCycle c); return Signal.none)).Accounts := by
  have stable := Scope.stable_keepsOuter.run
  -- what it moves, that it enters nothing, its own number, and the counts behind it
  refine ⟨?_, ?_, ?_, ?_⟩
  · exact Render.Moves.bind stable.toQuiet (Render.moves_runCycle stable c) fun text =>
      Node.moves_piece stable.toQuiet text
  · rintro run entry (found | ⟨found, -⟩) <;> cases List.mem_singleton.1 found
  · intro run past counted before d pieces after split
    obtain ⟨text, left, given, ended, written, -⟩ := cycle_ends counted
    cases before with
    | cons event before => cases before <;> cases (List.cons.inj split).2
    | nil =>
      obtain ⟨rfl, rfl⟩ := Event.cycle.inj (List.cons.inj split).1
      rw [ended, List.append_nil]
      exact ⟨text, given, written⟩
  · intro run past counted
    obtain ⟨text, left, given, ended, written, counts⟩ := cycle_ends counted
    rw [step_cycle, events_cycle, ended]
    show left.scope.Counts (past ++ [.cycle c (left.out.toList.drop run.out.size)])
    rwa [written]

/-! ## Section 4: Loops -/

/-- What does not change the scope does not count. -/
theorem quiet_frameCounters :
    Run.Quiet fun a b => b.scope.frameCounters = a.scope.frameCounters where
  refl := fun _ => rfl
  trans := fun _ _ _ h k => k.trans h
  write := fun _ _ => rfl
  aside := fun _ _ _ => rfl

theorem iterationFrame_free (item : String) (v : Value) (position : LoopPosition) :
    (iterationFrame item v position).note? countersNote = none :=
  rfl

variable {engine : Engine} {body : Traced Signal}

theorem accounts_forItems (h : body.Accounts) (item : String) (length : Nat) (vs : List Value)
    (i : Nat) : (forItems engine item length body i vs).Accounts := by
  induction vs generalizing i with
  | nil => exact accounts_pure ()
  | cons v vs ih =>
    rw [forItems]
    refine (h.inFrame (iterationFrame_free _ _ _)).bind fun signal => ?_
    split
    · exact accounts_silent (Render.moves_debug quiet_frameCounters _)
    · exact ih (i + 1)

theorem accounts_runFor (h : body.Accounts) {alternative : Traced Signal}
    (k : alternative.Accounts) (header : LoopHeader) :
    (runFor engine header body alternative).Accounts := by
  refine (accounts_silent (Render.moves_forValues quiet_frameCounters header)).bind fun vs => ?_
  cases vs with
  | nil => exact k
  | cons v vs => exact (accounts_forItems h _ _ _ _).loop.bind fun _ => accounts_pure _

theorem accounts_tableItems (h : body.Accounts) (item : String) (length cols : Nat)
    (vs : List Value) (i : Nat) : (tableItems item length cols body i vs).Accounts := by
  induction vs generalizing i with
  | nil => exact accounts_pure ()
  | cons v vs ih =>
    rw [tableItems]
    refine (accounts_silent (Render.moves_openCell quiet_frameCounters _ _)).bind fun _ => ?_
    refine (h.inFrame (iterationFrame_free _ _ _)).bind fun signal => ?_
    refine (accounts_silent (Render.moves_write quiet_frameCounters _)).bind fun _ => ?_
    split
    · exact accounts_pure ()
    · exact ih (i + 1)

theorem accounts_runTable (h : body.Accounts) (header : LoopHeader) :
    (runTable engine header body).Accounts := by
  have quiet := quiet_frameCounters
  refine (accounts_silent (Render.moves_tableEntry quiet header)).bind fun entered => ?_
  obtain ⟨items, cols⟩ := entered
  cases items with
  | nil => exact accounts_pure _
  | cons v vs =>
    refine (accounts_tableItems h _ _ _ _ _).loop.bind fun _ => ?_
    exact (accounts_silent (Render.moves_write quiet_frameCounters _)).bind fun _ =>
      accounts_pure _

end Traced

/-! ## Section 5: Nodes and templates -/

namespace Node

open Traced

variable {engine : Engine}

mutual

/-- What happens in a node is numbered rightly. -/
theorem accounts_traced : (n : Node) → (n.traced engine).Accounts
  | .text s => by
    rw [traced, render]
    exact accounts_silent (moves_piece quiet_frameCounters s)
  | .output e place => by
    rw [traced]
    exact accounts_silent (moves_output quiet_frameCounters e place)
  | .assign name e _ => by
    rw [traced, render]
    have quiet := quiet_frameCounters
    refine accounts_silent (Render.Moves.bind quiet (Render.moves_eval quiet e) fun v => ?_)
    refine Render.Moves.bind quiet ?_ fun _ => Render.moves_pure quiet _
    exact fun run => run.scope.frameCounters_assign name v.native
  | .cycle c _ => by
    rw [traced, render]
    exact accounts_cycle c
  | .signal s _ => by
    rw [traced, render]
    exact accounts_pure s
  | .loop h body alternative _ => by
    rw [traced]
    exact accounts_runFor (accounts_tracedAll body) (accounts_tracedOption alternative) h
  | .table h body _ => by
    rw [traced]
    exact accounts_runTable (accounts_tracedAll body) h
  | .branch negated branches alternative _ => by
    rw [traced]
    exact accounts_tracedBranches (accounts_tracedOption alternative) negated branches
  | .choice subject clauses alternative _ => by
    rw [traced]
    refine (accounts_silent (Render.moves_eval quiet_frameCounters subject)).bind fun v => ?_
    exact accounts_tracedClauses (accounts_tracedOption alternative) v clauses

theorem accounts_tracedAll : (ns : List Node) → (tracedAll engine ns).Accounts
  | [] => by
    rw [tracedAll]
    exact accounts_pure _
  | n :: ns => by
    rw [tracedAll]
    have first := (accounts_traced n).blamingOption n.place?
    have rest := accounts_tracedAll ns
    refine (accounts_silent (Render.moves_tick quiet_frameCounters)).bind fun _ => ?_
    refine first.bind fun signal => ?_
    split
    · exact rest
    · exact accounts_pure _

theorem accounts_tracedOption : (alternative : Option (List Node)) →
    (tracedOption engine alternative).Accounts
  | none => by
    rw [tracedOption]
    exact accounts_pure _
  | some ns => by
    rw [tracedOption]
    exact accounts_tracedAll ns

theorem accounts_tracedBranches {alternative : Traced Signal} (k : alternative.Accounts) :
    (negated : Bool) → (branches : List (Expr × List Node)) →
    (tracedBranches engine negated alternative branches).Accounts
  | _, [] => by
    rw [tracedBranches]
    exact k
  | negated, (condition, body) :: rest => by
    rw [tracedBranches]
    have here := accounts_tracedAll body
    have later := accounts_tracedBranches k false rest
    refine (accounts_silent (Render.moves_eval quiet_frameCounters condition)).bind fun v => ?_
    refine (accounts_silent (Render.moves_lift quiet_frameCounters _)).bind fun truth => ?_
    split
    · exact here
    · exact later

theorem accounts_tracedClauses {alternative : Traced Signal} (k : alternative.Accounts)
    (subject : Value) : (clauses : List (List Expr × List Node)) →
    (tracedClauses engine subject alternative clauses).Accounts
  | [] => by
    rw [tracedClauses]
    exact k
  | (alternatives, body) :: rest => by
    rw [tracedClauses]
    have here := accounts_tracedAll body
    have later := accounts_tracedClauses k subject rest
    refine (accounts_silent (moves_anyEqual quiet_frameCounters subject alternatives)).bind
      fun equal => ?_
    split
    · exact here
    · exact later

end

end Node

/-- What happens when a template is rendered in a scope. -/
def Template.events (engine : Engine) (t : Template) (scope : Scope) : List Event :=
  (t.traced engine).events ⟨scope, #[], #[], engine.moment⟩

/-- The cycles of a template give their texts in turn.  The rendering goes
    through an account of what happens in it, and in all that happens
    directly in one entry of a loop, wherever that is, each execution of a
    cycle writes the text at its number: the number of executions before it
    in the same entry, of cycles of the same group, or with the same texts
    if there is no group. -/
theorem Template.cycles_numbered (engine : Engine) (t : Template) (scope : Scope) :
    (t.traced engine).step = t.render engine ∧
    ∀ entry, Event.Entered entry (t.events engine scope) →
      ∀ before c written after, entry = before ++ .cycle c written :: after →
        ∃ text, c.values[executions c before % c.values.length]? = some text ∧
          written = [text] := by
  refine ⟨t.step_traced engine, fun entry entered => ?_⟩
  have accounts : (t.traced engine).Accounts := by
    refine (Node.accounts_tracedAll t.nodes).bind fun signal => ?_
    split
    · exact Traced.accounts_pure ()
    · exact Traced.accounts_silent fun _ => rfl
  exact accounts.entries _ entry entered

/-- A loop with two cycles of one group. -/
def alternating : Template :=
  ⟨[.loop (.of "x" (.range (.literal (.int 1)) (.literal (.int 2))) [])
      [.cycle ⟨"g", "a", ["b"]⟩ ⟨.int 1, .int 1, ""⟩,
        .cycle ⟨"g", "c", ["d", "e"]⟩ ⟨.int 2, .int 1, ""⟩]
      none ⟨.int 1, .int 1, ""⟩], ""⟩

/-- The fourth execution in the group gives the first of three texts. -/
theorem alternating_numbered :
    let events : List Event := [.cycle ⟨"g", "a", ["b"]⟩ ["a"], .cycle ⟨"g", "c", ["d", "e"]⟩ ["d"],
      .cycle ⟨"g", "a", ["b"]⟩ ["a"], .cycle ⟨"g", "c", ["d", "e"]⟩ ["c"]]
    Event.Entered events (alternating.events (.standard .standard) (.ofBindings [])) ∧
      executions ⟨"g", "c", ["d", "e"]⟩ (events.take 3) = 3 ∧
      ∃ text, ["c", "d", "e"][3 % 3]? = some text ∧ ["c"] = [text] := by
  have happens : alternating.events (.standard .standard) (.ofBindings []) =
      [.entry [.cycle ⟨"g", "a", ["b"]⟩ ["a"], .cycle ⟨"g", "c", ["d", "e"]⟩ ["d"],
        .cycle ⟨"g", "a", ["b"]⟩ ["a"], .cycle ⟨"g", "c", ["d", "e"]⟩ ["c"]]] := rfl
  have entered := Event.Entered.here (happens ▸ List.mem_singleton_self _)
  have numbered := (alternating.cycles_numbered (.standard .standard) (.ofBindings [])).2 _ entered
  exact ⟨entered, rfl, numbered [_, _, _] _ _ [] rfl⟩

end Stencil
