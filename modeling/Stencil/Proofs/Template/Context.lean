import Stencil.Proofs.Template.Gather
import Stencil.Proofs.Template.Lockstep

/-! # Nodes in their places

    A node of a template stands in a list of nodes, which is a body of
    another node, and so on up to the template.  A context is all that is
    around the node.  Any node of a template stands in some context, and
    another node in its place that renders alike makes no difference to the
    template. -/

namespace Stencil

namespace Node

/-! ## Section 1: Contexts -/

/-- What is around one body of a node. -/
inductive Around where
  | loop (h : LoopHeader) (alternative : Option (List Node)) (place : Place)
  /-- What is around the alternative of a loop. -/
  | instead (h : LoopHeader) (body : List Node) (place : Place)
  | table (h : LoopHeader) (place : Place)
  | branch (negated : Bool) (before : List (Expr × List Node)) (condition : Expr)
      (after : List (Expr × List Node)) (alternative : Option (List Node)) (place : Place)
  /-- What is around the alternative of branches. -/
  | otherwise (negated : Bool) (branches : List (Expr × List Node)) (place : Place)
  | clause (subject : Expr) (before : List (List Expr × List Node)) (alternatives : List Expr)
      (after : List (List Expr × List Node)) (alternative : Option (List Node)) (place : Place)
  /-- What is around the alternative of clauses. -/
  | default (subject : Expr) (clauses : List (List Expr × List Node)) (place : Place)

/-- The node with these nodes as the body. -/
def Around.node : Around → List Node → Node
  | loop h alternative place, ns => .loop h ns alternative place
  | instead h body place, ns => .loop h body (some ns) place
  | table h place, ns => .table h ns place
  | branch negated before condition after alternative place, ns =>
    .branch negated (before ++ (condition, ns) :: after) alternative place
  | otherwise negated branches place, ns => .branch negated branches (some ns) place
  | clause subject before alternatives after alternative place, ns =>
    .choice subject (before ++ (alternatives, ns) :: after) alternative place
  | default subject clauses place, ns => .choice subject clauses (some ns) place

/-- What is around a node: the nodes in front of it and behind it, and what
    is around those. -/
inductive Context where
  | here (before after : List Node)
  | inside (before : List Node) (around : Around) (inner : Context) (after : List Node)

/-- The nodes that a context becomes with a node in it. -/
def Context.fill : Context → Node → List Node
  | here before after, n => before ++ n :: after
  | inside before around inner after, n => before ++ around.node (inner.fill n) :: after

theorem exists_around {inLoop : Bool} {n : Node} {b : Bool × List Node}
    (hb : b ∈ n.bodies inLoop) : ∃ around : Around, n = around.node b.2 := by
  -- for each body, the rest of the node is what stands around it
  cases n with
  | loop h body alternative place =>
    rcases List.mem_cons.1 hb with rfl | hb
    · exact ⟨.loop h alternative place, rfl⟩
    · obtain ⟨ns, hns, rfl⟩ := List.mem_map.1 hb
      obtain rfl := Option.mem_toList.1 hns
      exact ⟨.instead h body place, rfl⟩
  | table h body place =>
    obtain rfl := List.mem_singleton.1 hb
    exact ⟨.table h place, rfl⟩
  | branch negated branches alternative place =>
    rcases List.mem_append.1 hb with hb | hb
    · obtain ⟨⟨condition, body⟩, hc, rfl⟩ := List.mem_map.1 hb
      obtain ⟨before, after, rfl⟩ := List.append_of_mem hc
      exact ⟨.branch negated before condition after alternative place, rfl⟩
    · obtain ⟨ns, hns, rfl⟩ := List.mem_map.1 hb
      obtain rfl := Option.mem_toList.1 hns
      exact ⟨.otherwise negated branches place, rfl⟩
  | choice subject clauses alternative place =>
    rcases List.mem_append.1 hb with hb | hb
    · obtain ⟨⟨alternatives, body⟩, hc, rfl⟩ := List.mem_map.1 hb
      obtain ⟨before, after, rfl⟩ := List.append_of_mem hc
      exact ⟨.clause subject before alternatives after alternative place, rfl⟩
    · obtain ⟨ns, hns, rfl⟩ := List.mem_map.1 hb
      obtain rfl := Option.mem_toList.1 hns
      exact ⟨.default subject clauses place, rfl⟩
  | _ => cases hb

/-- Every node among some nodes, at whatever depth, stands in a context. -/
theorem exists_context {ns : List Node} {m : Node} (hm : m ∈ gatherAll (fun n => [n]) ns) :
    ∃ C : Context, ns = C.fill m := by
  obtain ⟨n, hn, hm⟩ := mem_gatherAll.1 hm
  obtain ⟨before, after, split⟩ := List.append_of_mem hn
  rcases (mem_gather false).1 hm with own | ⟨b, hb, hm⟩
  · obtain rfl := List.mem_singleton.1 own
    exact ⟨.here before after, split⟩
  · -- inside a body of `n`, which is smaller
    obtain ⟨around, shape⟩ := exists_around hb
    have smaller := sizeOf_lt_of_mem_bodies hb
    have := List.sizeOf_lt_of_mem hn
    obtain ⟨C, inner⟩ := exists_context hm
    refine ⟨.inside before around C after, ?_⟩
    rw [Context.fill, ← inner, ← shape, split]
termination_by sizeOf ns
decreasing_by omega

/-! ## Section 2: Nodes in each other's place -/

open Render

variable {engine : Engine}

/-- An engine is in step with itself in the same scope. -/
theorem inStep_self (engine : Engine) :
    Engine.InStep False Eq (fun _ => True) engine engine where
  toInStep := Scope.inStep_eq
  eval := by
    rintro s _ moment e rfl -
    exact agrees_refl _
  limit := fun _ _ => agrees_refl _
  enter := fun f _ _ => congrArg (Scope.child f)
  leave := fun _ _ => congrArg Scope.leave

theorem follows_self (ns : List Node) :
    Follows False Eq (renderAll engine ns) (renderAll engine ns) :=
  renderAll_follows (inStep_self engine) ns fun _ _ => trivial

theorem follows_alternative (alternative : Option (List Node)) :
    Follows False Eq (renderOption engine alternative) (renderOption engine alternative) :=
  renderOption_follows (inStep_self engine) alternative fun _ _ => trivial

theorem follows_value (e : Expr) : Follows False Eq (eval engine e) (eval engine e) :=
  follows_eval (inStep_self engine) trivial

/-- Nodes in front of others make no difference to these. -/
theorem follows_behind (before : List Node) {ns ns' : List Node}
    (h : Follows False Eq (renderAll engine ns) (renderAll engine ns')) :
    Follows False Eq (renderAll engine (before ++ ns)) (renderAll engine (before ++ ns')) := by
  induction before with
  | nil => exact h
  | cons n before ih =>
    exact follows_cons (render_follows (inStep_self engine) n fun _ _ => trivial) rfl ih

/-- Branches in front of others make no difference to these. -/
theorem follows_behindBranches (before : List (Expr × List Node))
    {branches branches' : List (Expr × List Node)} {alternative alternative' : Render Signal}
    (h : ∀ negated, Follows False Eq (renderBranches engine negated alternative branches)
      (renderBranches engine negated alternative' branches')) (negated : Bool) :
    Follows False Eq (renderBranches engine negated alternative (before ++ branches))
      (renderBranches engine negated alternative' (before ++ branches')) := by
  induction before generalizing negated with
  | nil => exact h negated
  | cons b before ih => exact follows_branch (follows_value b.1) (follows_self b.2) (ih false)

/-- Clauses in front of others make no difference to these. -/
theorem follows_behindClauses (subject : Value) (before : List (List Expr × List Node))
    {clauses clauses' : List (List Expr × List Node)} {alternative alternative' : Render Signal}
    (h : Follows False Eq (renderClauses engine subject alternative clauses)
      (renderClauses engine subject alternative' clauses')) :
    Follows False Eq (renderClauses engine subject alternative (before ++ clauses))
      (renderClauses engine subject alternative' (before ++ clauses')) := by
  induction before with
  | nil => exact h
  | cons c before ih =>
    refine follows_clause ?_ (follows_self c.2) ih
    exact follows_anyEqual (inStep_self engine) subject fun _ _ => trivial

theorem renderOption_some (ns : List Node) :
    renderOption engine (some ns) = renderAll engine ns := by
  rw [renderOption]

/-- Bodies that render alike make nodes that render alike. -/
theorem Around.follows (around : Around) {ns ns' : List Node}
    (h : Follows False Eq (renderAll engine ns) (renderAll engine ns')) :
    Follows False Eq (render engine (around.node ns)) (render engine (around.node ns')) := by
  have here := inStep_self engine
  cases around with
  | loop header alternative place =>
    rw [node, node, render, render]
    exact follows_runFor (here.alike fun _ _ => trivial) h (follows_alternative alternative)
  | instead header body place =>
    rw [node, node, render, render, renderOption_some, renderOption_some]
    exact follows_runFor (here.alike fun _ _ => trivial) (follows_self body) h
  | table header place =>
    rw [node, node, render, render]
    exact follows_runTable (here.alike fun _ _ => trivial) h
  | branch negated before condition after alternative place =>
    rw [node, node, render, render]
    -- the branches in front decide first, and those behind come last
    refine follows_behindBranches before (fun negated => ?_) negated
    refine follows_branch (follows_value condition) h ?_
    exact renderBranches_follows here after (fun _ _ => trivial) (follows_alternative alternative)
      false
  | otherwise negated branches place =>
    rw [node, node, render, render, renderOption_some, renderOption_some]
    exact renderBranches_follows here branches (fun _ _ => trivial) h negated
  | clause subject before alternatives after alternative place =>
    rw [node, node, render, render]
    refine Follows.bind (follows_value subject) fun v => ?_
    refine follows_behindClauses v before (follows_clause ?_ h ?_)
    · exact follows_anyEqual here v fun _ _ => trivial
    · exact renderClauses_follows here after (fun _ _ => trivial)
        (follows_alternative alternative) v
  | default subject clauses place =>
    rw [node, node, render, render, renderOption_some, renderOption_some]
    refine Follows.bind (follows_value subject) fun v => ?_
    exact renderClauses_follows here clauses (fun _ _ => trivial) h v

theorem Around.place?_node (around : Around) (ns ns' : List Node) :
    (around.node ns').place? = (around.node ns).place? := by
  cases around <;> rfl

/-- In every context, a node may stand in the place of one that renders
    alike. -/
theorem Context.follows (C : Context) {n n' : Node}
    (h : Follows False Eq (render engine n) (render engine n')) (place : n'.place? = n.place?) :
    Follows False Eq (renderAll engine (C.fill n)) (renderAll engine (C.fill n')) := by
  -- from the node outwards, one body after another
  induction C with
  | here before after => exact follows_behind before (follows_cons h place (follows_self after))
  | inside before around inner after ih =>
    refine follows_behind before (follows_cons (around.follows ih) ?_ (follows_self after))
    exact around.place?_node _ _

end Node

/-- Templates that differ in one node only, for which there are two that
    render alike, have the same output or failure and leave the same
    scope. -/
theorem Template.renderIn_fill {engine : Engine} {n n' : Node}
    (h : Render.Follows False Eq (n.render engine) (n'.render engine))
    (place : n'.place? = n.place?) (C : Node.Context) (source : String) (scope : Scope) :
    (renderIn engine ⟨C.fill n, source⟩ scope).result =
        (renderIn engine ⟨C.fill n', source⟩ scope).result ∧
      (renderIn engine ⟨C.fill n, source⟩ scope).scope =
        (renderIn engine ⟨C.fill n', source⟩ scope).scope := by
  have nodes : Render.Follows False Eq (Node.renderAll engine (mk (C.fill n) source).nodes)
      (Node.renderAll engine (mk (C.fill n') source).nodes) := C.follows h place
  obtain same | ⟨never, -⟩ := renderIn_alike nodes rfl (rfl : scope = scope)
  · exact same
  · exact never.elim

end Stencil
