import Stencil.Proofs.Template.Step

/-! # What loops and cycles keep

    A loop runs its body in two frames more than it has itself: one with
    new counters for all iterations, and one for each iteration.  So a
    cycle inside finds counters, and what a loop hands on is tidy if its
    body keeps its own frames so. -/

namespace Stencil

variable {q : Terms} {shape : List Bool}

/-! ## Section 1: The parts of a loop -/

theorem checkLimit_evaluates {sound : Prop} {own : Fault → Prop} (engine : Engine) (tag : String)
    (count : Nat) : Evaluates sound own (fun _ => True) (checkLimit engine tag count) := by
  unfold checkLimit
  split
  · exact .ok fun _ => trivial
  · exact .error (.inl trivial)

theorem tidy_iterationFrame {sound : Prop} {item : String} {v : Value} {position : LoopPosition}
    (hv : sound → v.Sound) (hp : position.cols ≠ some 0) :
    (iterationFrame item v position).Tidy sound := by
  refine Frame.tidy_passing fun holds => Bindings.sound_of fun b hb => ?_
  rcases List.mem_cons.1 hb with rfl | hb
  · exact hv holds
  · rw [List.mem_singleton.1 hb]
    exact hp

/-- The frames that the body of a loop sees in front of those around the
    loop. -/
def bodyShape (shape : List Bool) : List Bool :=
  false :: true :: shape

theorem true_mem_bodyShape (shape : List Bool) : true ∈ bodyShape shape :=
  List.mem_cons_of_mem _ List.mem_cons_self

section

variable {engine : Engine} {ok : Signal → Prop} {body : Render Signal}

theorem LoopHeader.keeps_start (hr : engine.filters.Yields q.sound q.own) (h : LoopHeader) :
    Render.Keeps q shape (fun s : Value.Source => q.sound → s.Sound) (h.start engine) :=
  Render.keeps_evaluate hr fun _ _ hr hn => LoopHeader.walked_evaluates hr hn h

/-! ## Section 2: Loops over items -/

theorem keeps_forItems (item : String) (length : Nat)
    (hbody : Render.Keeps q (bodyShape shape) (fun _ => True) body) {vs : List Value}
    (hvs : q.sound → ∀ v ∈ vs, v.Sound) (i : Nat) :
    Render.Keeps q (true :: shape) (fun _ => True) (forItems engine item length body i vs) := by
  induction vs generalizing i with
  | nil => exact Render.keeps_pure trivial
  | cons v vs ih =>
    have frame : (iterationFrame item v ⟨i, length, none⟩).Tidy q.sound :=
      tidy_iterationFrame (fun holds => hvs holds v List.mem_cons_self) nofun
    have rest := ih (fun holds w hw => hvs holds w (List.mem_cons_of_mem _ hw)) (i + 1)
    refine Render.Keeps.bind (Render.Keeps.inFrame frame hbody) fun signal _ => ?_
    split
    · exact Render.keeps_debug engine _
    · exact rest

theorem keeps_forValues (hr : engine.filters.Yields q.sound q.own) (h : LoopHeader) :
    Render.Keeps q shape (fun vs : List Value => q.sound → ∀ v ∈ vs, v.Sound)
      (forValues engine h) := by
  refine Render.Keeps.bind (h.keeps_start hr) fun walked hw => ?_
  refine Render.Keeps.bind (Render.keeps_lift walked.count_evaluates) fun length _ => ?_
  refine Render.Keeps.bind (Render.keeps_debug engine _) fun _ _ => ?_
  refine Render.Keeps.bind (Render.keeps_lift (checkLimit_evaluates engine "for" length)) fun _ _ =>
    ?_
  exact Render.keeps_lift (Value.Source.values_evaluates hw)

/-- A loop hands on no signal, unless the alternative does. -/
theorem keeps_runFor (hr : engine.filters.Yields q.sound q.own) (h : LoopHeader)
    (hbody : Render.Keeps q (bodyShape shape) (fun _ => True) body)
    {alternative : Option (Render Signal)}
    (halt : ∀ x, alternative = some x → Render.Keeps q shape ok x) (hnone : ok .none) :
    Render.Keeps q shape ok (runFor engine h body alternative) := by
  refine Render.Keeps.bind (keeps_forValues hr h) fun vs hvs => ?_
  cases vs with
  | nil =>
    cases alternative with
    | none => exact Render.keeps_pure hnone
    | some x => exact halt x rfl
  | cons v vs =>
    refine Render.Keeps.bind (Render.Keeps.inFrame Frame.tidy_loop
      (keeps_forItems h.item (v :: vs).length hbody hvs 0)) fun _ _ => ?_
    exact Render.keeps_pure hnone

/-! ## Section 3: Loops that fill a table -/

theorem columns_pos (given : Option Nat) (length : Nat) : 0 < columns given length := by
  unfold columns
  split
  · omega
  · omega
  next n notZero =>
    have : n ≠ 0 := fun zero => notZero (by rw [zero])
    omega

theorem keeps_openCell (position : LoopPosition) (cols : Int) :
    Render.Keeps q shape (fun _ => True) (openCell position cols) := by
  unfold openCell
  split
  · split
    · refine Render.Keeps.bind (Render.keeps_write _) fun _ _ => ?_
      exact Render.Keeps.bind (Render.keeps_write _) fun _ _ => Render.keeps_write _
    · exact Render.Keeps.bind (Render.keeps_write _) fun _ _ => Render.keeps_write _
  · exact Render.keeps_write _

theorem keeps_tableItems (item : String) (length : Nat) {cols : Nat} (hcols : 0 < cols)
    (hbody : Render.Keeps q (bodyShape shape) (fun _ => True) body) {vs : List Value}
    (hvs : q.sound → ∀ v ∈ vs, v.Sound) (i : Nat) :
    Render.Keeps q (true :: shape) (fun _ => True) (tableItems item length cols body i vs) := by
  induction vs generalizing i with
  | nil => exact Render.keeps_pure trivial
  | cons v vs ih =>
    have some_column : some (cols : Int) ≠ some 0 := by
      simp only [ne_eq, Option.some.injEq]
      omega
    have frame : (iterationFrame item v ⟨i, length, some cols⟩).Tidy q.sound :=
      tidy_iterationFrame (fun holds => hvs holds v List.mem_cons_self) some_column
    have rest := ih (fun holds w hw => hvs holds w (List.mem_cons_of_mem _ hw)) (i + 1)
    refine Render.Keeps.bind (keeps_openCell _ _) fun _ _ => ?_
    refine Render.Keeps.bind (Render.Keeps.inFrame frame hbody) fun signal _ => ?_
    refine Render.Keeps.bind (Render.keeps_write _) fun _ _ => ?_
    split
    · exact Render.keeps_pure trivial
    · exact rest

/-- A table hands on no signal. -/
theorem keeps_runTable (hr : engine.filters.Yields q.sound q.own) (h : LoopHeader)
    (hbody : Render.Keeps q (bodyShape shape) (fun _ => True) body) (hnone : ok .none) :
    Render.Keeps q shape ok (runTable engine h body) := by
  refine Render.Keeps.bind (h.keeps_start hr) fun walked hw => ?_
  refine Render.Keeps.bind (Render.keeps_lift walked.count_evaluates) fun count _ => ?_
  refine Render.Keeps.bind
    (Render.keeps_lift (checkLimit_evaluates engine "tablerow" count)) fun _ _ => ?_
  refine Render.Keeps.bind (Render.keeps_lift (Value.Source.values_evaluates hw)) fun vs hvs => ?_
  refine Render.Keeps.bind (Render.keeps_evaluate hr fun _ _ hr hn =>
    modifierCount_evaluates hr hn "cols" h.cols) fun given _ => ?_
  refine Render.Keeps.bind (Render.keeps_debug engine _) fun _ _ => ?_
  split
  · exact Render.keeps_pure hnone
  · have items := keeps_tableItems h.item vs.length (columns_pos given vs.length) hbody hvs 0
    refine Render.Keeps.bind (Render.Keeps.inFrame Frame.tidy_loop items) fun _ _ => ?_
    refine Render.Keeps.bind (Render.keeps_write _) fun _ _ => ?_
    exact Render.keeps_pure hnone

end

/-! ## Section 4: Cycles -/

theorem runCycle_outside {c : Cycle} {run : Run}
    (found : run.scope.note? countersNote = none) :
    runCycle c run = .error (Fault.stray .cycle).failure run := by
  have stray : run.scope.counters = .error (.stray .cycle) := by
    rw [Scope.counters, found]
  show EStateM.bind (Render.lift run.scope.counters) _ run = _
  rw [stray]
  rfl

theorem Cycle.at_int (c : Cycle) (n : Int) : ∃ text, c.at (.int n) = .ok text :=
  ⟨_, rfl⟩

/-- Counters are integers, so they can be counted on, and a text of the
    cycle is found. -/
theorem runCycle_counted {c : Cycle} {run : Run} {entries : List (Native × Native)}
    (found : run.scope.note? countersNote = some (.dict entries))
    (areCounters : AreCounters entries) :
    ∃ text n, runCycle c run = .ok text { run with
      scope := run.scope.putNote countersNote (.dict (Native.store entries c.key (.int n))) } := by
  have counters : run.scope.counters = .ok entries := by
    rw [Scope.counters, found]
  obtain ⟨n, count⟩ := areCounters.count c.key
  obtain ⟨text, given⟩ := c.at_int n
  refine ⟨text, n + 1, ?_⟩
  show EStateM.bind (Render.lift run.scope.counters) _ run = _
  rw [counters]
  show EStateM.bind (Render.lift (((Native.lookup? entries c.key).getD
    (.int 0)).successor.mapError .operand)) _ run = _
  rw [count]
  show Render.lift ((c.at (.int n)).mapError .operand) _ = _
  rw [given]
  rfl

/-- Inside a loop a cycle finds counters. -/
theorem keeps_runCycle (c : Cycle) (h : q.contained → true ∈ shape) :
    Render.Keeps q shape (fun _ => True) (runCycle c) := by
  intro run tidy
  cases found : run.scope.note? countersNote with
  | none =>
    -- the frame of a loop has counters, so this is outside of all loops
    have outside : ¬ q.contained := by
      intro contained
      obtain ⟨note, present⟩ := tidy.exists_counters (h contained)
      rw [found] at present
      cases present
    rw [runCycle_outside found]
    exact ⟨Terms.allows_stray outside .cycle, tidy⟩
  | some note =>
    obtain ⟨counting, entries, rfl, areCounters⟩ := tidy.note?_counters found
    obtain ⟨text, n, counted⟩ := runCycle_counted (c := c) found areCounters
    rw [counted]
    exact ⟨trivial, tidy.putCounters counting (areCounters.store c.key n)⟩

end Stencil
