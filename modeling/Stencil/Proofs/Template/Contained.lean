import Stencil.Proofs.Loop.Run
import Stencil.Template.Render

/-! # Templates whose cycles and signals stand in loops

    A node stands in a loop when it is part of the body of one, at any
    depth; what a loop renders in the absence of items is outside of it.
    Where every cycle and signal stands in a loop, no rendering meets a
    cycle without counters, and no signal gets past the loops. -/

namespace Stencil

namespace Node

/-! ## Section 1: Where nodes stand -/

/-- The bodies of a node that stands in a loop or not, each with whether its
    nodes do. -/
def bodies (inLoop : Bool) : Node → List (Bool × List Node)
  | .loop _ body alternative _ => (true, body) :: alternative.toList.map fun ns => (inLoop, ns)
  | .table _ body _ => [(true, body)]
  | .branch _ branches alternative _ =>
    branches.map (fun b => (inLoop, b.2)) ++ alternative.toList.map fun ns => (inLoop, ns)
  | .choice _ clauses alternative _ =>
    clauses.map (fun c => (inLoop, c.2)) ++ alternative.toList.map fun ns => (inLoop, ns)
  | .text _ | .output _ _ | .assign _ _ _ | .cycle _ _ | .signal _ _ => []

/-- Does `p` hold of a node and of all nodes inside, each with whether it
    stands in a loop? -/
inductive Every (p : Bool → Node → Prop) : Bool → Node → Prop
  | intro {inLoop : Bool} {n : Node} : p inLoop n →
      (∀ b ∈ n.bodies inLoop, ∀ m ∈ b.2, Every p b.1 m) → Every p inLoop n

theorem Every.mono {p p' : Bool → Node → Prop} (h : ∀ inLoop n, p inLoop n → p' inLoop n)
    {inLoop : Bool} {n : Node} (every : Every p inLoop n) : Every p' inLoop n := by
  induction every with
  | intro here _ ih => exact .intro (h _ _ here) ih

/-- Does the node need a loop around it? -/
def needsLoop : Node → Bool
  | .cycle _ _ | .signal _ _ => true
  | _ => false

end Node

/-- Do all cycles and signals of a template stand in loops? -/
def Template.Contained (t : Template) : Prop :=
  ∀ n ∈ t.nodes, Node.Every (fun inLoop n => n.needsLoop = true → inLoop = true) false n

/-! ## Section 2: What nodes keep -/

/-- May the node stand there, by the terms? -/
structure Terms.Admits (q : Terms) (inLoop : Bool) (n : Node) : Prop where
  placed : ∀ p, n.place? = some p → q.placed p
  contained : q.contained → n.needsLoop = true → inLoop = true

/-- May a node that stands in a loop or not hand on the signal? -/
def Terms.Hands (q : Terms) (inLoop : Bool) (s : Signal) : Prop :=
  q.contained → inLoop = false → s = .none

namespace Node

variable {q : Terms} {engine : Engine}

theorem keeps_anyEqual (hr : engine.filters.Yields q.sound q.own) {shape : List Bool}
    {subject : Value} (hs : q.sound → subject.Sound) (es : List Expr) :
    Render.Keeps q shape (fun _ => True) (anyEqual engine subject es) := by
  induction es with
  | nil => exact Render.keeps_pure trivial
  | cons e es ih =>
    refine Render.Keeps.bind (Render.keeps_eval hr e) fun v hv => ?_
    refine Render.Keeps.bind (Render.keeps_lift
      (Meets.evaluates_true (Native.equal_meets _ _ hv hs))) fun same _ => ?_
    cases same with
    | true => exact Render.keeps_pure trivial
    | false => exact ih

theorem Keeps.blamingOption {α : Type} {shape : List Bool} {ok : α → Prop} {x : Render α}
    (h : Render.Keeps q shape ok x) {place : Option Place}
    (hp : ∀ p, place = some p → q.placed p) : Render.Keeps q shape ok (blamingOption place x) := by
  cases place with
  | none => exact h
  | some p => exact h.blaming (hp p rfl)

theorem hands_none (inLoop : Bool) : q.Hands inLoop .none := fun _ _ => rfl

theorem print_evaluates {sound : Prop} {own : Fault → Prop} (n : Native) :
    Evaluates sound own (fun _ => True) (n.print.mapError .operand) :=
  Meets.mapError ((n.printAs_meets false).mono (fun _ _ _ => trivial) fun _ he => he)
    fun _ he => .inl (.inl he)

mutual

/-- Rendering keeps the scope tidy and fails as the terms allow.  The bodies
    of loops see new frames, so the shape changes with the node. -/
theorem render_keeps (hr : engine.filters.Yields q.sound q.own) :
    (n : Node) → {inLoop : Bool} → {shape : List Bool} →
    (q.contained → inLoop = true → true ∈ shape) → Every q.Admits inLoop n →
    Render.Keeps q shape (q.Hands inLoop) (render engine n)
  | .text s, _, _, _, _ => by
    rw [render]
    exact Render.Keeps.bind (Render.keeps_write s) fun _ _ => Render.keeps_pure (hands_none _)
  | .output e _, _, _, _, _ => by
    rw [render]
    refine Render.Keeps.bind (Render.keeps_eval hr e) fun v _ => ?_
    refine Render.Keeps.bind (Render.keeps_lift (print_evaluates v.native)) fun text _ => ?_
    exact Render.Keeps.bind (Render.keeps_write text) fun _ _ => Render.keeps_pure (hands_none _)
  | .assign name e _, _, _, _, _ => by
    rw [render]
    refine Render.Keeps.bind (Render.keeps_eval hr e) fun v hv => ?_
    exact Render.Keeps.bind (Render.keeps_assign hv) fun _ _ => Render.keeps_pure (hands_none _)
  | .cycle c _, _, _, hshape, .intro here _ => by
    rw [render]
    have counted := keeps_runCycle (q := q) c fun contained =>
      hshape contained (here.contained contained rfl)
    refine Render.Keeps.bind counted fun text _ => ?_
    exact Render.Keeps.bind (Render.keeps_write text) fun _ _ => Render.keeps_pure (hands_none _)
  | .signal s _, inLoop, _, _, .intro here _ => by
    rw [render]
    refine Render.keeps_pure fun contained outside => ?_
    have inside := here.contained contained rfl
    rw [outside] at inside
    cases inside
  -- only the body is inside of the loop; what stands instead of it is not
  | .loop h body alternative _, inLoop, shape, hshape, .intro _ inner => by
    rw [render]
    have hbody : Render.Keeps q (bodyShape shape) (q.Hands true) (renderAll engine body) :=
      renderAll_keeps hr body (fun _ _ => true_mem_bodyShape shape) (inner _ List.mem_cons_self)
    have halt := renderOption_keeps hr alternative hshape fun ns hns =>
      inner (inLoop, ns) (List.mem_cons_of_mem _ (by simp [hns]))
    refine keeps_runFor hr h (hbody.mono fun _ _ => trivial) (fun x hx => ?_) (hands_none _)
    cases hx
    exact halt
  | .table h body _, _, shape, _, .intro _ inner => by
    rw [render]
    have hbody : Render.Keeps q (bodyShape shape) (q.Hands true) (renderAll engine body) :=
      renderAll_keeps hr body (fun _ _ => true_mem_bodyShape shape) (inner _ List.mem_cons_self)
    exact keeps_runTable hr h (hbody.mono fun _ _ => trivial) (hands_none _)
  | .branch negated branches alternative _, inLoop, _, hshape, .intro _ inner => by
    rw [render]
    have halt := renderOption_keeps hr alternative hshape fun ns hns =>
      inner (inLoop, ns) (List.mem_append_right _ (by simp [hns]))
    exact renderBranches_keeps hr branches hshape halt (fun b hb =>
      inner (inLoop, b.2) (List.mem_append_left _ (List.mem_map_of_mem hb))) negated
  | .choice subject clauses alternative _, inLoop, _, hshape, .intro _ inner => by
    rw [render]
    have halt := renderOption_keeps hr alternative hshape fun ns hns =>
      inner (inLoop, ns) (List.mem_append_right _ (by simp [hns]))
    refine Render.Keeps.bind (Render.keeps_eval hr subject) fun v hv => ?_
    exact renderClauses_keeps hr clauses hshape halt hv fun c hc =>
      inner (inLoop, c.2) (List.mem_append_left _ (List.mem_map_of_mem hc))

theorem renderAll_keeps (hr : engine.filters.Yields q.sound q.own) :
    (ns : List Node) → {inLoop : Bool} → {shape : List Bool} →
    (q.contained → inLoop = true → true ∈ shape) → (∀ n ∈ ns, Every q.Admits inLoop n) →
    Render.Keeps q shape (q.Hands inLoop) (renderAll engine ns)
  | [], _, _, _, _ => by
    rw [renderAll]
    exact Render.keeps_pure (hands_none _)
  | n :: ns, _, _, hshape, h => by
    rw [renderAll]
    have every := h n List.mem_cons_self
    have placed : ∀ p, n.place? = some p → q.placed p := by
      cases every with
      | intro here _ => exact here.placed
    have first := Keeps.blamingOption (render_keeps hr n hshape every) placed
    have rest := renderAll_keeps hr ns hshape fun m hm => h m (List.mem_cons_of_mem _ hm)
    refine Render.Keeps.bind Render.keeps_tick fun _ _ => ?_
    refine Render.Keeps.bind first fun signal handed => ?_
    split
    · exact rest
    · exact Render.keeps_pure handed

theorem renderOption_keeps (hr : engine.filters.Yields q.sound q.own) :
    (alternative : Option (List Node)) → {inLoop : Bool} → {shape : List Bool} →
    (q.contained → inLoop = true → true ∈ shape) →
    (∀ ns, alternative = some ns → ∀ n ∈ ns, Every q.Admits inLoop n) →
    Render.Keeps q shape (q.Hands inLoop) (renderOption engine alternative)
  | none, _, _, _, _ => by
    rw [renderOption]
    exact Render.keeps_pure (hands_none _)
  | some ns, _, _, hshape, h => by
    rw [renderOption]
    exact renderAll_keeps hr ns hshape (h ns rfl)

theorem renderBranches_keeps (hr : engine.filters.Yields q.sound q.own) :
    (branches : List (Expr × List Node)) → {inLoop : Bool} → {shape : List Bool} →
    (q.contained → inLoop = true → true ∈ shape) → {alternative : Render Signal} →
    Render.Keeps q shape (q.Hands inLoop) alternative →
    (∀ b ∈ branches, ∀ n ∈ b.2, Every q.Admits inLoop n) → (negated : Bool) →
    Render.Keeps q shape (q.Hands inLoop) (renderBranches engine negated alternative branches)
  | [], _, _, _, _, halt, _, _ => by
    rw [renderBranches]
    exact halt
  | (condition, body) :: rest, _, _, hshape, _, halt, h, negated => by
    rw [renderBranches]
    have here := renderAll_keeps hr body hshape (h (condition, body) List.mem_cons_self)
    have later := renderBranches_keeps hr rest hshape halt
      (fun b hb => h b (List.mem_cons_of_mem _ hb)) false
    refine Render.Keeps.bind (Render.keeps_eval hr condition) fun v _ => ?_
    refine Render.Keeps.bind (Render.keeps_lift
      (Meets.evaluates_true (Value.truth_meets v))) fun truth _ => ?_
    split
    · exact here
    · exact later

theorem renderClauses_keeps (hr : engine.filters.Yields q.sound q.own) :
    (clauses : List (List Expr × List Node)) → {inLoop : Bool} → {shape : List Bool} →
    (q.contained → inLoop = true → true ∈ shape) → {alternative : Render Signal} →
    Render.Keeps q shape (q.Hands inLoop) alternative → {subject : Value} →
    (q.sound → subject.Sound) → (∀ c ∈ clauses, ∀ n ∈ c.2, Every q.Admits inLoop n) →
    Render.Keeps q shape (q.Hands inLoop) (renderClauses engine subject alternative clauses)
  | [], _, _, _, _, halt, _, _, _ => by
    rw [renderClauses]
    exact halt
  | (alternatives, body) :: rest, _, _, hshape, _, halt, _, hs, h => by
    rw [renderClauses]
    have here := renderAll_keeps hr body hshape (h (alternatives, body) List.mem_cons_self)
    have later := renderClauses_keeps hr rest hshape halt hs
      fun c hc => h c (List.mem_cons_of_mem _ hc)
    refine Render.Keeps.bind (keeps_anyEqual hr hs alternatives) fun equal _ => ?_
    cases equal with
    | true => exact here
    | false => exact later

end

end Node

/-! ## Section 3: Templates -/

/-- What a template fails with, from a scope of sound data. -/
theorem Template.render_keeps {q : Terms} {engine : Engine}
    (hr : engine.filters.Yields q.sound q.own) {t : Template}
    (h : ∀ n ∈ t.nodes, Node.Every q.Admits false n) :
    Render.Keeps q [false] (fun _ => True) (t.render engine) := by
  have nodes : Render.Keeps q [false] (q.Hands false) (Node.renderAll engine t.nodes) :=
    Node.renderAll_keeps hr t.nodes (fun _ => nofun) h
  refine Render.Keeps.bind nodes fun signal handed => ?_
  by_cases none : signal = .none
  · simp only [none, if_true]
    exact Render.keeps_pure trivial
  · simp only [none, if_false]
    intro run tidy
    exact ⟨Terms.allows_stray (fun contained => none (handed contained rfl)) _, tidy⟩

theorem Template.renderIn_allows {q : Terms} {engine : Engine}
    (hr : engine.filters.Yields q.sound q.own) {t : Template}
    (h : ∀ n ∈ t.nodes, Node.Every q.Admits false n) {bindings : Bindings}
    (hb : q.sound → bindings.Sound) {f : Failure}
    (failed : (t.renderIn engine (.ofBindings bindings)).result = .error f) : q.Allows f := by
  have kept := Template.render_keeps hr h ⟨.ofBindings bindings, #[], #[], engine.moment⟩
    (Scope.tidy_ofBindings hb)
  unfold Template.renderIn at failed
  cases ended : t.render engine ⟨.ofBindings bindings, #[], #[], engine.moment⟩ with
  | ok a after =>
    rw [ended] at failed
    cases failed
  | error g after =>
    rw [ended] at failed kept
    cases failed
    exact kept.1

end Stencil
