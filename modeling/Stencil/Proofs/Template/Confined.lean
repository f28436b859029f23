import Stencil.Proofs.Template.Gather

/-! # What a rendering leaves bound

    A rendering binds names in the frames around it only by its
    assignments.  Whatever else it binds, the items of loops and their
    positions, it binds in frames of its own, which are gone behind the
    loop.  So a name that no assignment targets is bound behind a template,
    or behind any node of it, as it was in front, however the rendering
    ends. -/

namespace Stencil

/-! ## Section 1: Names that keep their bindings -/

/-- Has the second scope the frames of the first, each with the same datum
    bound to every name in `kept`? -/
inductive Scope.Fixes (kept : String → Prop) : Scope → Scope → Prop
  | root {f g : Frame} : (∀ name, kept name → g.bindings.lookup name = f.bindings.lookup name) →
      Fixes kept (.root f) (.root g)
  | child {f g : Frame} {s t : Scope} :
      (∀ name, kept name → g.bindings.lookup name = f.bindings.lookup name) →
      Fixes kept s t → Fixes kept (.child f s) (.child g t)

namespace Scope

variable {kept : String → Prop} {s t u : Scope}

theorem fixes_refl (s : Scope) : Fixes kept s s := by
  induction s with
  | root f => exact .root fun _ _ => rfl
  | child f s ih => exact .child (fun _ _ => rfl) ih

theorem Fixes.trans (h : Fixes kept s t) (k : Fixes kept t u) : Fixes kept s u := by
  induction h generalizing u with
  | root same =>
    cases k with
    | root same' => exact .root fun name hname => (same' name hname).trans (same name hname)
  | child same _ ih =>
    cases k with
    | child same' inner =>
      exact .child (fun name hname => (same' name hname).trans (same name hname)) (ih inner)

theorem fixes_assign {target : String} (other : ¬ kept target) (s : Scope) (value : Native) :
    Fixes kept s (s.assign target value) := by
  have put (f : Frame) (name : String) (hname : kept name) :
      (f.bindings.put target value).lookup name = f.bindings.lookup name := by
    refine Bindings.lookup_put_of_ne f.bindings ?_ value
    rintro rfl
    exact other hname
  induction s with
  | root f => exact .root (put f)
  | child f s ih =>
    -- a frame of a loop is passed by, any other takes the assignment
    rw [assign]
    split
    · exact .child (fun _ _ => rfl) ih
    · exact .child (put f) (fixes_refl s)

theorem fixes_putNote (s : Scope) (name : String) (note : Native) :
    Fixes kept s (s.putNote name note) := by
  induction s with
  | root f => exact .root fun _ _ => rfl
  | child f s ih =>
    rw [putNote]
    split
    · exact .child (fun _ _ => rfl) (fixes_refl s)
    · exact .child (fun _ _ => rfl) ih

/-- Assignments to some names, and counting, keep the bindings of all
    others. -/
theorem stable_fixes (targets : String → Prop) :
    Scope.Stable targets (Fixes fun name => ¬ targets name) where
  refl := fixes_refl
  trans := fun _ _ _ h k => h.trans k
  assign := fun s _ value target => fixes_assign (not_not_intro target) s value
  count := fun s note => fixes_putNote s countersNote note
  leave := by
    intro f s t h
    cases h with
    | child _ inner => exact inner

theorem Fixes.get?_eq (h : Fixes kept s t) {name : String} (hname : kept name) :
    t.get? name = s.get? name := by
  induction h with
  | root same => exact same name hname
  | child same _ ih => rw [get?, get?, same name hname, ih]

end Scope

/-! ## Section 2: Nodes and templates -/

/-- The assignments in a node assign to its targets. -/
theorem Node.every_assignsTo {targets : String → Prop} {n : Node}
    (h : ∀ name ∈ n.targets, targets name) :
    Every (fun _ m => m.AssignsTo targets) false n :=
  (every_of_gather h false).mono fun _ _ own => assignsTo_of_ownTargets own

/-- Behind a node, all names but the targets of the assignments in it are
    bound as in front of it. -/
theorem Node.render_fixes (engine : Engine) (n : Node) (run : Run) :
    run.scope.Fixes (· ∉ n.targets) (Render.final (n.render engine run)).scope :=
  render_moves (Scope.stable_fixes (· ∈ n.targets)).run n (every_assignsTo fun _ => id) run

/-- The same behind a template. -/
theorem Template.renderIn_fixes (engine : Engine) (t : Template) (scope : Scope) :
    scope.Fixes (· ∉ t.targets) (t.renderIn engine scope).scope := by
  refine renderIn_moves (Scope.stable_fixes (· ∈ t.targets)) engine (fun n hn => ?_) scope
  exact Node.every_assignsTo fun name hname => Node.mem_gatherAll.2 ⟨n, hn, hname⟩

/-- A rendering writes only what it assigns.  Whether it completes or fails,
    the outermost frame is the only one afterwards, and binds what it has
    bound, except at the targets of the template's assignments.  In
    particular no item of a loop and no `forloop` is left bound that was
    not bound before and is not assigned to.  And behind every node, such as
    a loop, in whatever state it is rendered and however it ends, each name
    that no assignment in it targets stands for what it stood for in
    front. -/
theorem Template.renderIn_confined (engine : Engine) (t : Template) (frame : Frame) :
    (∃ after : Frame, (t.renderIn engine (.root frame)).scope = .root after ∧
      (∀ name, name ∉ t.targets → after.bindings.lookup name = frame.bindings.lookup name) ∧
      ∀ name ∈ "forloop" :: t.items, name ∉ t.targets → frame.bindings.lookup name = none →
        after.bindings.lookup name = none) ∧
    ∀ (n : Node) (run : Run) (name : String), name ∉ n.targets →
      (Render.final (n.render engine run)).scope.get? name = run.scope.get? name := by
  constructor
  · have fixed := t.renderIn_fixes engine (.root frame)
    generalize (t.renderIn engine (.root frame)).scope = left at fixed ⊢
    cases fixed with
    | @root _ after same =>
      exact ⟨after, rfl, same, fun name _ free absent => (same name free).trans absent⟩
  · exact fun n run name free => (n.render_fixes engine run).get?_eq free

/-- A loop whose items shadow a name, and that is broken off behind an
    assignment. -/
def shadowing : Template :=
  ⟨[.loop (.of "x" (.var "xs") [])
      [.assign "last" (.var "x") ⟨.int 1, .int 1, ""⟩, .signal .stop ⟨.int 2, .int 1, ""⟩]
      none ⟨.int 1, .int 1, ""⟩], ""⟩

/-- The shadowed name is what it was; only the target is any different. -/
theorem shadowing_confined :
    "x" ∉ shadowing.targets ∧ "forloop" ∉ shadowing.targets ∧
      let before : Frame := .durable [("xs", .list [.int 1, .int 2]), ("x", .text "kept")]
      ∃ after : Frame,
        (shadowing.renderIn (.standard .standard) (.root before)).scope = .root after ∧
        after.bindings.lookup "x" = some (.text "kept") ∧
        after.bindings.lookup "forloop" = none ∧ after.bindings.lookup "last" = some (.int 1) := by
  have item : "x" ∉ shadowing.targets := by decide
  have position : "forloop" ∉ shadowing.targets := by decide
  obtain ⟨⟨after, left, same, unbound⟩, -⟩ := shadowing.renderIn_confined (.standard .standard)
    (.durable [("xs", .list [.int 1, .int 2]), ("x", .text "kept")])
  have rendered : (shadowing.renderIn (.standard .standard)
      (.root (.durable [("xs", .list [.int 1, .int 2]), ("x", .text "kept")]))).scope = .root
        (.durable [("xs", .list [.int 1, .int 2]), ("x", .text "kept"), ("last", .int 1)]) := rfl
  refine ⟨item, position, after, left, same "x" item,
    unbound "forloop" List.mem_cons_self position rfl, ?_⟩
  rw [rendered] at left
  cases left
  rfl

end Stencil
