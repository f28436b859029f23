import Stencil.Proofs.Loop.Calls

/-! # What a rendering does to its state

    A rendering changes the scope it is given in two ways only: it assigns
    to the targets of its assignments, and it counts the executions of its
    cycles.  Besides, it appends to the output, tells the debug log, and
    goes on in time.  What all of these keep, a whole rendering keeps,
    however it ends.  In particular the frames around a node stay where they
    are, those that assignments pass by bind what they have bound, and what
    has been written stays written. -/

namespace Stencil

/-! ## Section 1: Steps -/

/-- Do all ways in which a rendering changes its state but for the scope keep
    a relation to the state before? -/
structure Run.Quiet (R : Run → Run → Prop) : Prop where
  refl : ∀ run, R run run
  trans : ∀ a b c, R a b → R b c → R a c
  write : ∀ (run : Run) piece, R run { run with out := run.out.push piece }
  aside : ∀ (run : Run) log moment, R run { run with log := log, moment := moment }

/-- Do all ways in which a rendering changes its state keep the relation,
    where the names in `targets` may be assigned to? -/
structure Run.Stable (targets : String → Prop) (R : Run → Run → Prop) : Prop
    extends Run.Quiet R where
  assign : ∀ (run : Run) name value, targets name →
    R run { run with scope := run.scope.assign name value }
  count : ∀ (run : Run) note, R run { run with scope := run.scope.putNote countersNote note }
  leave : ∀ frame (run after : Run), R { run with scope := .child frame run.scope } after →
    R run { after with scope := after.scope.leave }

/-- The same for a relation of scopes. -/
structure Scope.Stable (targets : String → Prop) (R : Scope → Scope → Prop) : Prop where
  refl : ∀ s, R s s
  trans : ∀ s t u, R s t → R t u → R s u
  assign : ∀ s name value, targets name → R s (s.assign name value)
  count : ∀ s note, R s (s.putNote countersNote note)
  leave : ∀ f s t, R (.child f s) t → R s t.leave

theorem Scope.Stable.run {targets : String → Prop} {R : Scope → Scope → Prop}
    (h : Scope.Stable targets R) : Run.Stable targets fun a b => R a.scope b.scope where
  refl := fun run => h.refl run.scope
  trans := fun a b c => h.trans a.scope b.scope c.scope
  assign := fun run name value => h.assign run.scope name value
  count := fun run note => h.count run.scope note
  write := fun run _ => h.refl run.scope
  aside := fun run _ _ => h.refl run.scope
  leave := fun frame run after => h.leave frame run.scope after.scope

/-- Is the state that a step ends in, in whatever way it ends, related to
    the one that it is given? -/
def Render.Moves {α : Type} (R : Run → Run → Prop) (x : Render α) : Prop :=
  ∀ run : Run, R run (Render.final (x run))

namespace Render

variable {α β : Type} {targets : String → Prop} {R : Run → Run → Prop} {engine : Engine}

section

variable (hR : Run.Quiet R)

include hR

theorem moves_pure (a : α) : Moves R (pure a : Render α) :=
  fun run => hR.refl run

theorem Moves.bind {x : Render α} {f : α → Render β} (h : Moves R x) (k : ∀ a, Moves R (f a)) :
    Moves R (x >>= f) := by
  intro run
  have first := h run
  cases ended : x run with
  | ok a mid =>
    rw [bind_of_ok ended]
    rw [ended] at first
    exact hR.trans _ _ _ first (k a mid)
  | error failure mid =>
    rw [bind_of_error ended]
    rwa [ended] at first

theorem moves_lift (x : Except Fault α) : Moves R (lift x) := by
  cases x <;> exact fun run => hR.refl run

theorem moves_write (piece : String) : Moves R (write piece) :=
  fun run => hR.write run piece

theorem moves_tick : Moves R tick :=
  fun run => hR.aside run run.log (run.moment + 1)

/-- A state with new entries of the debug log is related. -/
theorem related_of_logged {run after : Run} (h : run.Logged engine after) : R run after := by
  rw [h.same]
  exact hR.aside run after.log run.moment

theorem moves_debug (parts : List (Except OperandFault String)) :
    Moves R (debug engine parts) := by
  intro run
  obtain ⟨after, told, logged⟩ := debug_ends engine parts run
  rw [told]
  exact related_of_logged hR logged

theorem moves_evaluate (value : Registry → Names → Except Fault α)
    (names : Registry → Names → List String) : Moves R (evaluate engine value names) := by
  intro run
  obtain ⟨after, logged, ended⟩ := evaluate_ends engine value names run
  rw [ended]
  exact hR.trans _ _ _ (related_of_logged hR logged) (moves_lift hR _ after)

theorem moves_eval (e : Expr) : Moves R (eval engine e) :=
  moves_evaluate hR _ _

theorem moves_openCell (position : LoopPosition) (cols : Int) :
    Moves R (openCell position cols) := by
  unfold openCell
  split
  · split
    · refine Moves.bind hR (moves_write hR _) fun _ => ?_
      exact Moves.bind hR (moves_write hR _) fun _ => moves_write hR _
    · exact Moves.bind hR (moves_write hR _) fun _ => moves_write hR _
  · exact moves_write hR _

/-- The items of a loop are found without a change of the scope. -/
theorem moves_forValues (header : LoopHeader) : Moves R (forValues engine header) := by
  refine Moves.bind hR (moves_evaluate hR _ _) fun walked => ?_
  refine Moves.bind hR (moves_lift hR _) fun length => ?_
  refine Moves.bind hR (moves_debug hR _) fun _ => ?_
  exact Moves.bind hR (moves_lift hR _) fun _ => moves_lift hR _

/-- A table is entered without a change of the scope. -/
theorem moves_tableEntry (header : LoopHeader) : Moves R (tableEntry engine header) := by
  refine Moves.bind hR (moves_evaluate hR _ _) fun walked => ?_
  refine Moves.bind hR (moves_lift hR _) fun count => ?_
  refine Moves.bind hR (moves_lift hR _) fun _ => ?_
  refine Moves.bind hR (moves_lift hR _) fun items => ?_
  refine Moves.bind hR (moves_evaluate hR _ _) fun given => ?_
  exact Moves.bind hR (moves_debug hR _) fun _ => moves_pure hR _

end

section

variable (hR : Run.Stable targets R)

include hR

theorem moves_assign {name : String} (h : targets name) (value : Native) :
    Moves R (modify fun r : Run => { r with scope := r.scope.assign name value }) :=
  fun run => hR.assign run name value h

theorem Moves.inFrame {x : Render α} (h : Moves R x) (frame : Frame) :
    Moves R (inFrame frame x) := by
  intro run
  have inside := h { run with scope := .child frame run.scope }
  unfold Render.inFrame
  cases ended : x { run with scope := .child frame run.scope } with
  | ok a after =>
    rw [ended] at inside
    exact hR.leave _ _ _ inside
  | error failure after =>
    rw [ended] at inside
    exact hR.leave _ _ _ inside

omit hR in
theorem Moves.blamingOption {x : Render α} (h : Moves R x) (place : Option Place) :
    Moves R (Node.blamingOption place x) := by
  cases place with
  | none => exact h
  | some p =>
    intro run
    have kept := h run
    show R run (final (Render.blaming p x run))
    unfold Render.blaming
    cases ended : x run with
    | ok a after => rwa [ended] at kept
    | error failure after => rwa [ended] at kept

/-! ## Section 2: Loops and cycles -/

theorem moves_forItems {body : Render Signal} (h : Moves R body) (item : String) (length : Nat)
    (vs : List Value) (i : Nat) : Moves R (forItems engine item length body i vs) := by
  induction vs generalizing i with
  | nil => exact moves_pure hR.toQuiet ()
  | cons v vs ih =>
    refine Moves.bind hR.toQuiet (h.inFrame hR _) fun signal => ?_
    split
    · exact moves_debug hR.toQuiet _
    · exact ih (i + 1)

theorem moves_runFor {body : Render Signal} (h : Moves R body) (header : LoopHeader)
    {alternative : Option (Render Signal)} (k : ∀ x, alternative = some x → Moves R x) :
    Moves R (runFor engine header body alternative) := by
  refine Moves.bind hR.toQuiet (moves_forValues hR.toQuiet header) fun vs => ?_
  cases vs with
  | nil =>
    cases alternative with
    | none => exact moves_pure hR.toQuiet _
    | some x => exact k x rfl
  | cons v vs =>
    refine Moves.bind hR.toQuiet (Moves.inFrame hR (moves_forItems hR h _ _ _ _) _) fun _ => ?_
    exact moves_pure hR.toQuiet _

theorem moves_tableItems {body : Render Signal} (h : Moves R body) (item : String)
    (length cols : Nat) (vs : List Value) (i : Nat) :
    Moves R (tableItems item length cols body i vs) := by
  induction vs generalizing i with
  | nil => exact moves_pure hR.toQuiet ()
  | cons v vs ih =>
    refine Moves.bind hR.toQuiet (moves_openCell hR.toQuiet _ _) fun _ => ?_
    refine Moves.bind hR.toQuiet (h.inFrame hR _) fun signal => ?_
    refine Moves.bind hR.toQuiet (moves_write hR.toQuiet _) fun _ => ?_
    split
    · exact moves_pure hR.toQuiet ()
    · exact ih (i + 1)

theorem moves_runTable {body : Render Signal} (h : Moves R body) (header : LoopHeader) :
    Moves R (runTable engine header body) := by
  rw [runTable_eq]
  refine Moves.bind hR.toQuiet (moves_tableEntry hR.toQuiet header) fun entered => ?_
  obtain ⟨items, cols⟩ := entered
  cases items with
  | nil => exact moves_pure hR.toQuiet _
  | cons v vs =>
    refine Moves.bind hR.toQuiet (Moves.inFrame hR (moves_tableItems hR h _ _ _ _ _) _) fun _ => ?_
    exact Moves.bind hR.toQuiet (moves_write hR.toQuiet _) fun _ => moves_pure hR.toQuiet _

theorem moves_runCycle (c : Cycle) : Moves R (runCycle c) := by
  have got : Moves R (get : Render Run) := fun run => hR.refl run
  refine Moves.bind hR.toQuiet got fun run => ?_
  refine Moves.bind hR.toQuiet (moves_lift hR.toQuiet _) fun counters => ?_
  refine Moves.bind hR.toQuiet (moves_lift hR.toQuiet _) fun next => ?_
  have counted : Moves R (modify fun r : Run => { r with
      scope := r.scope.putNote countersNote (.dict (Native.store counters c.key next)) }) :=
    fun run => hR.count run _
  exact Moves.bind hR.toQuiet counted fun _ => moves_lift hR.toQuiet _

end

end Render

namespace Node

/-! ## Section 3: Nodes -/

/-- Does the node, if it is an assignment, assign to one of the targets? -/
def AssignsTo (targets : String → Prop) : Node → Prop
  | .assign name _ _ => targets name
  | _ => True

variable {targets : String → Prop} {R : Run → Run → Prop} {engine : Engine}

theorem moves_piece (hR : Run.Quiet R) (piece : String) :
    Render.Moves R (do Render.write piece; return Signal.none) :=
  Render.Moves.bind hR (Render.moves_write hR piece) fun _ => Render.moves_pure hR _

theorem moves_output (hR : Run.Quiet R) (e : Expr) (place : Place) :
    Render.Moves R (render engine (.output e place)) := by
  rw [render]
  refine Render.Moves.bind hR (Render.moves_eval hR e) fun v => ?_
  exact Render.Moves.bind hR (Render.moves_lift hR _) fun text => moves_piece hR text

theorem moves_anyEqual (hR : Run.Quiet R) (subject : Value) (es : List Expr) :
    Render.Moves R (anyEqual engine subject es) := by
  induction es with
  | nil => exact Render.moves_pure hR false
  | cons e es ih =>
    refine Render.Moves.bind hR (Render.moves_eval hR e) fun v => ?_
    refine Render.Moves.bind hR (Render.moves_lift hR _) fun same => ?_
    split
    · exact Render.moves_pure hR true
    · exact ih

mutual

/-- A rendering moves the scope by what its assignments and cycles do. -/
theorem render_moves (hR : Run.Stable targets R) : (n : Node) → {inLoop : Bool} →
    Every (fun _ m => m.AssignsTo targets) inLoop n → Render.Moves R (render engine n)
  | .text s, _, _ => by
    rw [render]
    exact moves_piece hR.toQuiet s
  | .output e place, _, _ => moves_output hR.toQuiet e place
  | .assign name e _, _, .intro here _ => by
    rw [render]
    refine Render.Moves.bind hR.toQuiet (Render.moves_eval hR.toQuiet e) fun v => ?_
    exact Render.Moves.bind hR.toQuiet (Render.moves_assign hR here v.native) fun _ =>
      Render.moves_pure hR.toQuiet _
  | .cycle c _, _, _ => by
    rw [render]
    refine Render.Moves.bind hR.toQuiet (Render.moves_runCycle hR c) fun text => ?_
    exact moves_piece hR.toQuiet text
  | .signal s _, _, _ => by
    rw [render]
    exact Render.moves_pure hR.toQuiet s
  | .loop h body alternative _, inLoop, .intro _ inner => by
    rw [render]
    have hbody := renderAll_moves hR body (inner _ List.mem_cons_self)
    have halt := renderOption_moves hR alternative fun ns hns =>
      inner (inLoop, ns) (List.mem_cons_of_mem _ (by simp [hns]))
    refine Render.moves_runFor hR hbody h fun x hx => ?_
    cases hx
    exact halt
  | .table h body _, _, .intro _ inner => by
    rw [render]
    have hbody := renderAll_moves hR body (inner _ List.mem_cons_self)
    exact Render.moves_runTable hR hbody h
  | .branch negated branches alternative _, inLoop, .intro _ inner => by
    rw [render]
    have halt := renderOption_moves hR alternative fun ns hns =>
      inner (inLoop, ns) (List.mem_append_right _ (by simp [hns]))
    exact renderBranches_moves hR branches halt (fun b hb =>
      inner (inLoop, b.2) (List.mem_append_left _ (List.mem_map_of_mem hb))) negated
  | .choice subject clauses alternative _, inLoop, .intro _ inner => by
    rw [render]
    have halt := renderOption_moves hR alternative fun ns hns =>
      inner (inLoop, ns) (List.mem_append_right _ (by simp [hns]))
    refine Render.Moves.bind hR.toQuiet (Render.moves_eval hR.toQuiet subject) fun v => ?_
    exact renderClauses_moves hR clauses halt v fun c hc =>
      inner (inLoop, c.2) (List.mem_append_left _ (List.mem_map_of_mem hc))

theorem renderAll_moves (hR : Run.Stable targets R) : (ns : List Node) → {inLoop : Bool} →
    (∀ n ∈ ns, Every (fun _ m => m.AssignsTo targets) inLoop n) →
    Render.Moves R (renderAll engine ns)
  | [], _, _ => by
    rw [renderAll]
    exact Render.moves_pure hR.toQuiet _
  | n :: ns, _, h => by
    rw [renderAll]
    have first := (render_moves hR n (h n List.mem_cons_self)).blamingOption
      n.place?
    have rest := renderAll_moves hR ns fun m hm =>
      h m (List.mem_cons_of_mem _ hm)
    refine Render.Moves.bind hR.toQuiet (Render.moves_tick hR.toQuiet) fun _ => ?_
    refine Render.Moves.bind hR.toQuiet first fun signal => ?_
    split
    · exact rest
    · exact Render.moves_pure hR.toQuiet _

theorem renderOption_moves (hR : Run.Stable targets R) :
    (alternative : Option (List Node)) → {inLoop : Bool} →
    (∀ ns, alternative = some ns → ∀ n ∈ ns, Every (fun _ m => m.AssignsTo targets) inLoop n) →
    Render.Moves R (renderOption engine alternative)
  | none, _, _ => by
    rw [renderOption]
    exact Render.moves_pure hR.toQuiet _
  | some ns, _, h => by
    rw [renderOption]
    exact renderAll_moves hR ns (h ns rfl)

theorem renderBranches_moves (hR : Run.Stable targets R) :
    (branches : List (Expr × List Node)) → {inLoop : Bool} → {alternative : Render Signal} →
    Render.Moves R alternative →
    (∀ b ∈ branches, ∀ n ∈ b.2, Every (fun _ m => m.AssignsTo targets) inLoop n) →
    (negated : Bool) → Render.Moves R (renderBranches engine negated alternative branches)
  | [], _, _, halt, _, _ => by
    rw [renderBranches]
    exact halt
  | (condition, body) :: rest, _, _, halt, h, negated => by
    rw [renderBranches]
    have here := renderAll_moves hR body (h (condition, body) List.mem_cons_self)
    have later := renderBranches_moves hR rest halt
      (fun b hb => h b (List.mem_cons_of_mem _ hb)) false
    refine Render.Moves.bind hR.toQuiet (Render.moves_eval hR.toQuiet condition) fun v => ?_
    refine Render.Moves.bind hR.toQuiet (Render.moves_lift hR.toQuiet _) fun truth => ?_
    split
    · exact here
    · exact later

theorem renderClauses_moves (hR : Run.Stable targets R) :
    (clauses : List (List Expr × List Node)) → {inLoop : Bool} → {alternative : Render Signal} →
    Render.Moves R alternative → (subject : Value) →
    (∀ c ∈ clauses, ∀ n ∈ c.2, Every (fun _ m => m.AssignsTo targets) inLoop n) →
    Render.Moves R (renderClauses engine subject alternative clauses)
  | [], _, _, halt, _, _ => by
    rw [renderClauses]
    exact halt
  | (alternatives, body) :: rest, _, _, halt, subject, h => by
    rw [renderClauses]
    have here := renderAll_moves hR body
      (h (alternatives, body) List.mem_cons_self)
    have later := renderClauses_moves hR rest halt subject
      fun c hc => h c (List.mem_cons_of_mem _ hc)
    refine Render.Moves.bind hR.toQuiet (moves_anyEqual hR.toQuiet subject alternatives)
      fun equal => ?_
    split
    · exact here
    · exact later

end

/-! ## Section 4: Any nodes -/

theorem sizeOf_lt_of_mem_bodies {inLoop : Bool} {n : Node} {b : Bool × List Node}
    (hb : b ∈ n.bodies inLoop) : sizeOf b.2 < sizeOf n := by
  cases n with
  | loop h body alternative place =>
    rcases List.mem_cons.1 hb with rfl | hb
    · simp
      omega
    · obtain ⟨ns, hns, rfl⟩ := List.mem_map.1 hb
      obtain rfl := Option.mem_toList.1 hns
      simp
      omega
  | table h body place =>
    rw [List.mem_singleton.1 hb]
    simp
    omega
  | branch negated branches alternative place =>
    rcases List.mem_append.1 hb with hb | hb
    · obtain ⟨c, hc, rfl⟩ := List.mem_map.1 hb
      have := sizeOf_body_lt hc
      simp
      omega
    · obtain ⟨ns, hns, rfl⟩ := List.mem_map.1 hb
      obtain rfl := Option.mem_toList.1 hns
      simp
      omega
  | choice subject clauses alternative place =>
    rcases List.mem_append.1 hb with hb | hb
    · obtain ⟨c, hc, rfl⟩ := List.mem_map.1 hb
      have := sizeOf_body_lt hc
      simp
      omega
    · obtain ⟨ns, hns, rfl⟩ := List.mem_map.1 hb
      obtain rfl := Option.mem_toList.1 hns
      simp
      omega
  | _ => cases hb

/-- What a property that is handed on to all bodies tells about a node, it
    tells about all nodes inside. -/
theorem every_of_closed {P : Node → Prop} {p : Bool → Node → Prop}
    (here : ∀ inLoop n, P n → p inLoop n)
    (inner : ∀ inLoop n, P n → ∀ b ∈ n.bodies inLoop, ∀ m ∈ b.2, P m) (inLoop : Bool) (n : Node)
    (h : P n) : Every p inLoop n := by
  refine .intro (here inLoop n h) fun b hb m hm => ?_
  have smaller := sizeOf_lt_of_mem_bodies hb
  have := List.sizeOf_lt_of_mem hm
  exact every_of_closed here inner b.1 m (inner inLoop n h b hb m hm)
termination_by sizeOf n
decreasing_by omega

end Node

/-- A whole rendering moves the scope by what its assignments and cycles
    do. -/
theorem Template.renderIn_moves {targets : String → Prop} {R : Scope → Scope → Prop}
    (h : Scope.Stable targets R) (engine : Engine) {t : Template}
    (assigns : ∀ n ∈ t.nodes, Node.Every (fun _ m => m.AssignsTo targets) false n)
    (scope : Scope) : R scope (t.renderIn engine scope).scope := by
  have whole : Render.Moves (fun a b => R a.scope b.scope) (t.render engine) := by
    refine Render.Moves.bind h.run.toQuiet (Node.renderAll_moves h.run t.nodes assigns)
      fun signal => ?_
    split
    · exact Render.moves_pure h.run.toQuiet ()
    · exact fun run => h.refl run.scope
  have moved := whole ⟨scope, #[], #[], engine.moment⟩
  unfold renderIn
  cases ended : t.render engine ⟨scope, #[], #[], engine.moment⟩ with
  | ok a after => rwa [ended] at moved
  | error failure after => rwa [ended] at moved

/-! ## Section 5: Frames -/

/-- Has the second scope the frames of the first, of which those that are
    passed by bind what they have bound? -/
inductive Scope.Evolves : Scope → Scope → Prop
  | root {f g : Frame} : g.transient = f.transient → Evolves (.root f) (.root g)
  | child {f g : Frame} {s t : Scope} : g.transient = f.transient →
      (f.isTransient = true → g.bindings = f.bindings) → Evolves s t →
      Evolves (.child f s) (.child g t)

namespace Scope

theorem evolves_refl (s : Scope) : Evolves s s := by
  induction s with
  | root f => exact .root rfl
  | child f s ih => exact .child rfl (fun _ => rfl) ih

theorem Evolves.trans {s t u : Scope} (h : Evolves s t) (k : Evolves t u) : Evolves s u := by
  induction h generalizing u with
  | root same =>
    cases k with
    | root same' => exact .root (same'.trans same)
  | child same kept _ ih =>
    cases k with
    | child same' kept' inner =>
      refine .child (same'.trans same) (fun passed => ?_) (ih inner)
      rw [kept' (by rwa [Frame.isTransient, same]), kept passed]

theorem evolves_assign (s : Scope) (name : String) (value : Native) :
    Evolves s (s.assign name value) := by
  induction s with
  | root f => exact .root rfl
  | child f s ih =>
    rw [assign]
    split
    next => exact .child rfl (fun _ => rfl) ih
    next durable => exact .child rfl (fun passed => absurd passed durable) (evolves_refl s)

theorem evolves_putNote (s : Scope) (name : String) (note : Native) :
    Evolves s (s.putNote name note) := by
  induction s with
  | root f => exact .root rfl
  | child f s ih =>
    rw [putNote]
    split
    · exact .child rfl (fun _ => rfl) (evolves_refl s)
    · exact .child rfl (fun _ => rfl) ih

theorem stable_evolves : Scope.Stable (fun _ => True) Evolves where
  refl := evolves_refl
  trans := fun _ _ _ h k => h.trans k
  assign := fun s name value _ => evolves_assign s name value
  count := fun s note => evolves_putNote s countersNote note
  leave := by
    intro f s t h
    cases h with
    | child _ _ inner => exact inner

end Scope

/-- Any nodes move a state by assigning and counting, writing and telling. -/
theorem Node.renderAll_moves_of_any {R : Run → Run → Prop} (hR : Run.Stable (fun _ => True) R)
    (engine : Engine) (ns : List Node) : Render.Moves R (renderAll engine ns) := by
  have assigns (inLoop : Bool) (n : Node) (_ : True) : n.AssignsTo fun _ => True := by
    cases n <;> exact trivial
  exact renderAll_moves hR ns fun n _ =>
    every_of_closed assigns (fun _ _ _ _ _ _ _ => trivial) false n trivial

/-- The nodes in the body of a loop bind nothing in the frame around all
    iterations. -/
theorem Node.renderAll_passesLoop (engine : Engine) (ns : List Node) :
    (renderAll engine ns).PassesLoop := by
  intro run frame loop caller shape _ passed
  have moved : run.scope.Evolves (Render.final (renderAll engine ns run)).scope :=
    renderAll_moves_of_any Scope.stable_evolves.run engine ns run
  rw [shape] at moved
  generalize (Render.final (renderAll engine ns run)).scope = after at moved ⊢
  cases moved with
  | child _ _ inner =>
    cases inner with
    | child same kept _ => exact ⟨_, _, _, rfl, by rwa [Frame.isTransient, same], kept passed⟩

end Stencil
