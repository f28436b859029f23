import Stencil.Proofs.Template.Lockstep

/-! # What a rendering depends on

    A rendering depends on the data that the names in its expressions are
    bound to, on the filters in its expressions, and on nothing else that
    the caller binds or registers.  On the settings it depends in one way
    only: they may end it with an error.  What can be rendered under some
    settings is rendered alike under all that are looser. -/

namespace Stencil

/-! ## Section 1: Scopes that look alike -/

namespace Scope

/-- Do two scopes have the same frames inside their outermost ones, and do
    these give the same data to the names in `known`, and hold the same
    counters of cycles?  A name without a binding counts as nil. -/
inductive Alike (known : String → Prop) : Scope → Scope → Prop
  | root {f g : Frame} : (∀ name, known name →
      (f.bindings.lookup name).getD .nil = (g.bindings.lookup name).getD .nil) →
      f.note? countersNote = g.note? countersNote → Alike known (.root f) (.root g)
  | child {f : Frame} {s t : Scope} : Alike known s t → Alike known (.child f s) (.child f t)

namespace Alike

variable {known : String → Prop} {s t : Scope}

theorem getD_get? (h : Alike known s t) {name : String} (mentioned : known name) :
    (s.get? name).getD .nil = (t.get? name).getD .nil := by
  induction h with
  | root bound _ => exact bound name mentioned
  | @child f s t _ ih =>
    rw [get?, get?]
    cases f.bindings.lookup name with
    | some n => rfl
    | none => exact ih

theorem names_eq (h : Alike known s t) {name : String} (mentioned : known name) :
    s.names name = t.names name :=
  congrArg Except.ok (h.getD_get? mentioned)

theorem note?_eq (h : Alike known s t) : s.note? countersNote = t.note? countersNote := by
  induction h with
  | root _ counters => exact counters
  | @child f s t _ ih =>
    rw [note?, note?]
    cases f.note? countersNote with
    | some n => rfl
    | none => exact ih

theorem counters_eq (h : Alike known s t) : s.counters = t.counters := by
  unfold counters
  rw [h.note?_eq]

theorem assign (h : Alike known s t) (name : String) (value : Native) :
    Alike known (s.assign name value) (t.assign name value) := by
  induction h with
  | @root f g bound counters =>
    -- assigned to, a name is bound alike in both, mentioned or not
    refine .root (fun other mentioned => ?_) counters
    by_cases same : other = name
    · rw [same, Bindings.lookup_put_self, Bindings.lookup_put_self]
    · rw [Bindings.lookup_put_of_ne _ same, Bindings.lookup_put_of_ne _ same]
      exact bound other mentioned
  | @child f s t inner ih =>
    rw [Scope.assign, Scope.assign]
    split
    · exact .child ih
    · exact .child inner

theorem putNote (h : Alike known s t) (note : Native) :
    Alike known (s.putNote countersNote note) (t.putNote countersNote note) := by
  induction h with
  | @root f g bound counters =>
    refine .root bound ?_
    rw [Frame.note?_counters, Frame.note?_counters]
    have left := Bindings.lookup_put_self f.notes countersNote note
    exact left.trans (Bindings.lookup_put_self g.notes countersNote note).symm
  | @child f s t inner ih =>
    rw [Scope.putNote, Scope.putNote]
    split
    · exact .child inner
    · exact .child ih

theorem leave (h : Alike known s t) : Alike known s.leave t.leave := by
  cases h with
  | root bound counters => exact .root bound counters
  | child inner => exact inner

end Alike

/-- The outermost frames of two renderings. -/
theorem alike_ofBindings {known : String → Prop} {bindings bindings' : Bindings}
    (h : ∀ name, known name →
      (bindings.lookup name).getD .nil = (bindings'.lookup name).getD .nil) :
    Alike known (.ofBindings bindings) (.ofBindings bindings') :=
  .root h rfl

end Scope

/-! ## Section 2: What a template mentions -/

namespace Template

/-- The names that occur as variables in a template. -/
def variableNames (t : Template) : List String :=
  t.expressions.flatMap Expr.variableNames

/-- The names of the filters in a template. -/
def filterNames (t : Template) : List String :=
  t.expressions.flatMap Expr.filterNames

end Template

/-- Engines that differ in filters that a template does not mention are in
    step in scopes that differ in names that it does not mention. -/
theorem Engine.inStep_of_mentioned (t : Template) {r q : Registry}
    (strict : r.strict = q.strict) (found : ∀ name ∈ t.filterNames, r.find? name = q.find? name)
    (settings : Settings) (moment : Nat) :
    InStep False (Scope.Alike (· ∈ t.variableNames)) (· ∈ t.expressions) ⟨r, settings, moment⟩
      ⟨q, settings, moment⟩ where
  eval := by
    intro s s' now e related inside
    have agree : (r.atMoment now).AgreesOn False (· ∈ t.filterNames) (q.atMoment now) :=
      ⟨rfl, .inl strict, found⟩
    refine e.eval_agrees agree (fun name hname => ?_) fun name hname => ?_
    · exact related.names_eq (List.mem_flatMap.2 ⟨e, inside, hname⟩)
    · exact List.mem_flatMap.2 ⟨e, inside, hname⟩
  limit := fun _ _ => agrees_refl _
  counters := fun _ _ related => related.counters_eq
  assign := fun _ _ name value related => related.assign name value
  count := fun _ _ note related => related.putNote note
  enter := fun _ _ _ related => .child related
  leave := fun _ _ related => related.leave

/-- Rendering depends only on what a template mentions: with the same data
    for the names that occur as variables, and the same filters of the names
    that occur as filters, the output or the failure is the same. -/
theorem Template.renderIn_mentioned (t : Template) (settings : Settings) (moment : Nat)
    {bindings bindings' : Bindings}
    (bound : ∀ name ∈ t.variableNames,
      ((Scope.ofBindings bindings).get? name).getD .nil =
        ((Scope.ofBindings bindings').get? name).getD .nil)
    {r q : Registry} (strict : r.strict = q.strict)
    (found : ∀ name ∈ t.filterNames, r.find? name = q.find? name) :
    (t.renderIn ⟨r, settings, moment⟩ (.ofBindings bindings)).result =
      (t.renderIn ⟨q, settings, moment⟩ (.ofBindings bindings')).result := by
  have inStep := Engine.inStep_of_mentioned t strict found settings moment
  obtain ⟨same, -⟩ | ⟨never, -⟩ :=
    t.renderIn_follows inStep rfl (fun _ inside => inside) (Scope.alike_ofBindings bound)
  · exact same
  · exact never.elim

/-- A loop over a list that is sorted, with an assignment. -/
def sorting : Template :=
  ⟨[.loop (.of "x" (.filter (.var "xs") "sort" []) [.reversed])
      [.assign "last" (.var "x") ⟨.int 2, .int 1, ""⟩, .output (.var "last") ⟨.int 3, .int 1, ""⟩]
      none ⟨.int 1, .int 1, ""⟩], ""⟩

/-- It looks at the list, and not at what else is bound or registered. -/
theorem sorting_mentioned :
    sorting.variableNames = ["xs", "x", "last"] ∧ sorting.filterNames = ["sort"] ∧
      ∀ (y : Native) (f : Filter),
        (sorting.renderIn (.standard .standard)
            (.ofBindings [("xs", .list [.int 1, .int 2])])).result =
          (sorting.renderIn ⟨(Filter.standard true).register "f" f, .standard, 0⟩
            (.ofBindings [("y", y), ("xs", .list [.int 1, .int 2]), ("x", .nil)])).result := by
  have variableNames : sorting.variableNames = ["xs", "x", "last"] := rfl
  have filterNames : sorting.filterNames = ["sort"] := rfl
  refine ⟨variableNames, filterNames, fun y f => ?_⟩
  refine sorting.renderIn_mentioned .standard 0 ?_ rfl ?_
  · rw [variableNames]
    simp only [List.forall_mem_cons]
    exact ⟨rfl, rfl, rfl, nofun⟩
  · rw [filterNames, List.forall_mem_singleton]
    rfl

/-! ## Section 3: Looser settings -/

/-- Are the second settings at least as loose?  They limit loops less or not
    at all, and are strict about filters only if the first ones are. -/
structure Settings.Loosened (tight loose : Settings) : Prop where
  limit : ∀ n, loose.maxLoopItems = some n → 0 < n →
    ∃ m, tight.maxLoopItems = some m ∧ 0 < m ∧ m ≤ n
  strict : loose.strictFilters = true → tight.strictFilters = true

/-- The engine for settings, with the filters that are registered. -/
def Engine.under (registered : Registry) (moment : Nat) (settings : Settings) : Engine :=
  ⟨{ registered with strict := settings.strictFilters }, settings, moment⟩

namespace Settings.Loosened

variable {tight loose : Settings}

theorem allows (h : tight.Loosened loose) {count : Nat}
    (allowed : Settings.allows tight.maxLoopItems count = true) :
    Settings.allows loose.maxLoopItems count = true := by
  unfold Settings.allows at allowed ⊢
  split
  next n limited =>
    -- a limit that is not positive is none
    by_cases positive : 0 < n
    · obtain ⟨m, tighter, hm, hmn⟩ := h.limit n limited positive
      rw [tighter] at allowed
      simp only [Bool.or_eq_true, decide_eq_true_eq] at allowed ⊢
      omega
    · simp only [Bool.or_eq_true, decide_eq_true_eq]
      omega
  next => rfl

theorem checkLimit (h : tight.Loosened loose) (registered : Registry) (moment : Nat)
    (tag : String) (count : Nat) :
    Agrees True (checkLimit (.under registered moment tight) tag count)
      (checkLimit (.under registered moment loose) tag count) := by
  unfold Stencil.checkLimit Engine.under
  cases allowed : Settings.allows tight.maxLoopItems count with
  | true =>
    simp only [h.allows allowed]
    exact agrees_refl _
  | false => exact .inr ⟨trivial, _, rfl⟩

/-- Looser settings are in step with the tighter ones, but for errors. -/
theorem inStep (h : tight.Loosened loose) (registered : Registry) (moment : Nat) :
    Engine.InStep True Eq (fun _ => True) (.under registered moment tight)
      (.under registered moment loose) where
  eval := by
    rintro s _ now e rfl -
    have strict : tight.strictFilters = loose.strictFilters ∨
        (True ∧ loose.strictFilters = false) := by
      cases loosely : loose.strictFilters with
      | true => exact .inl (h.strict loosely)
      | false => exact .inr ⟨trivial, rfl⟩
    have agree : Registry.AgreesOn True (fun _ => True)
        ((Engine.under registered moment tight).filters.atMoment now)
        ((Engine.under registered moment loose).filters.atMoment now) :=
      ⟨rfl, strict, fun _ _ => rfl⟩
    exact e.eval_agrees agree (fun _ _ => rfl) fun _ _ => trivial
  limit := h.checkLimit registered moment
  toInStep := Scope.inStep_eq
  enter := fun f _ _ => congrArg (Scope.child f)
  leave := fun _ _ => congrArg Scope.leave

end Settings.Loosened

/-- Looser settings never change what can be rendered: the output is the
    same, and so is the scope that is left. -/
theorem Template.renderIn_loosened (t : Template) (registered : Registry) (moment : Nat)
    (scope : Scope) {tight loose : Settings} (h : tight.Loosened loose) {output : String}
    (rendered : (t.renderIn (.under registered moment tight) scope).result = .ok output) :
    (t.renderIn (.under registered moment loose) scope).result = .ok output ∧
      (t.renderIn (.under registered moment loose) scope).scope =
        (t.renderIn (.under registered moment tight) scope).scope := by
  obtain ⟨same, left⟩ | ⟨-, failure, failed⟩ :=
    t.renderIn_follows (h.inStep registered moment) rfl (fun _ _ => trivial) (rfl : scope = scope)
  · exact ⟨same ▸ rendered, left.symm⟩
  · rw [failed] at rendered
    cases rendered

/-- A loop over a list, with an assignment. -/
def remembering : Template :=
  ⟨[.loop (.of "x" (.var "xs") [])
      [.output (.var "x") ⟨.int 2, .int 1, ""⟩, .assign "last" (.var "x") ⟨.int 3, .int 1, ""⟩]
      none ⟨.int 1, .int 1, ""⟩], ""⟩

/-- Two items are allowed by a limit of two, and so without a limit. -/
theorem remembering_loosened :
    Settings.Loosened ⟨some 2, true, false⟩ ⟨some 0, false, true⟩ ∧
      let scope : Scope := .ofBindings [("xs", .list [.text "a", .text "b"])]
      let tight := remembering.renderIn
        (.under (Filter.standard true) 0 ⟨some 2, true, false⟩) scope
      let loose := remembering.renderIn
        (.under (Filter.standard true) 0 ⟨some 0, false, true⟩) scope
      tight.result = .ok "ab" ∧ loose.result = .ok "ab" ∧ loose.scope = tight.scope := by
  have looser : Settings.Loosened ⟨some 2, true, false⟩ ⟨some 0, false, true⟩ := by
    refine ⟨fun n limited positive => ?_, nofun⟩
    cases limited
    contradiction
  have rendered : (remembering.renderIn (.under (Filter.standard true) 0 ⟨some 2, true, false⟩)
      (.ofBindings [("xs", .list [.text "a", .text "b"])])).result = .ok "ab" := rfl
  exact ⟨looser, rendered, remembering.renderIn_loosened _ 0 _ looser rendered⟩

end Stencil
