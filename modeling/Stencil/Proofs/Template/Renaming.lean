import Stencil.Proofs.Statement.Renaming
import Stencil.Proofs.Template.Context

/-! # Renamed loop variables

    The name that the items of a loop are bound to matters to nobody but the
    body of the loop.  Called otherwise there, by a name that the body does
    not mention, the items are found all the same: two renderings go on in
    lockstep whose scopes have the same frames but for that name. -/

namespace Stencil

/-! ## Section 1: Renamed nodes -/

/-- The renaming that takes one name to another one, and all others as `σ`
    does. -/
def rebind (σ : String → String) (x y : String) : String → String :=
  fun name => if name = x then y else σ name

namespace Node

mutual

/-- A node with the variables in its expressions renamed.  In the body of a
    loop inside, the items of that loop keep their name; what is assigned to
    keeps its name everywhere. -/
def rename (σ : String → String) : Node → Node
  | .text s => .text s
  | .output e place => .output (e.rename σ) place
  | .assign name e place => .assign name (e.rename σ) place
  | .cycle c place => .cycle c place
  | .signal s place => .signal s place
  | .loop h body alternative place =>
    .loop (h.rename σ) (renameAll (rebind σ h.item h.item) body) (renameOption σ alternative) place
  | .table h body place => .table (h.rename σ) (renameAll (rebind σ h.item h.item) body) place
  | .branch negated branches alternative place =>
    .branch negated (renameBranches σ branches) (renameOption σ alternative) place
  | .choice subject clauses alternative place =>
    .choice (subject.rename σ) (renameClauses σ clauses) (renameOption σ alternative) place

/-- Nodes with the variables in their expressions renamed. -/
def renameAll (σ : String → String) : List Node → List Node
  | [] => []
  | n :: ns => rename σ n :: renameAll σ ns

/-- The same for nodes that may be absent. -/
def renameOption (σ : String → String) : Option (List Node) → Option (List Node)
  | none => none
  | some ns => some (renameAll σ ns)

/-- The same for branches. -/
def renameBranches (σ : String → String) : List (Expr × List Node) → List (Expr × List Node)
  | [] => []
  | (condition, body) :: rest => (condition.rename σ, renameAll σ body) :: renameBranches σ rest

/-- The same for clauses. -/
def renameClauses (σ : String → String) :
    List (List Expr × List Node) → List (List Expr × List Node)
  | [] => []
  | (alternatives, body) :: rest =>
    (Expr.renameAll σ alternatives, renameAll σ body) :: renameClauses σ rest

end

theorem place?_rename (σ : String → String) (n : Node) : (n.rename σ).place? = n.place? := by
  cases n <;> rw [rename] <;> rfl

/-- A loop whose items are bound to another name, under which its body looks
    them up.  The expressions in its header, and its alternative, are outside
    the loop. -/
def renameLoop (y : String) : Node → Node
  | .loop h body alternative place =>
    .loop { h with item := y } (renameAll (rebind id h.item y) body) alternative place
  | .table h body place =>
    .table { h with item := y } (renameAll (rebind id h.item y) body) place
  | n => n

end Node

/-! ## Section 2: Scopes under frames -/

/-- Have two scopes innermost frames of one relation, in scopes of another
    relation? -/
inductive Scope.Under (F : Frame → Frame → Prop) (R : Scope → Scope → Prop) :
    Scope → Scope → Prop
  | intro {f g : Frame} {s t : Scope} : F f g → R s t → Under F R (.child f s) (.child g t)

/-- Are related frames transient ones, with the same counters, and does
    counting keep the relation? -/
structure Frame.Paired (F : Frame → Frame → Prop) : Prop where
  transient : ∀ f g, F f g → f.isTransient = true ∧ g.isTransient = true
  counters : ∀ f g, F f g → f.note? countersNote = g.note? countersNote
  count : ∀ f g note, F f g → (f.note? countersNote).isSome = true →
    F (f.putNote countersNote note) (g.putNote countersNote note)

namespace Scope

variable {F : Frame → Frame → Prop} {R : Scope → Scope → Prop}

theorem leads_under {f g : Frame} (h : F f g) : Frame.Leads R (Under F R) f g where
  enter := fun _ _ related => .intro h related
  leave := by
    rintro _ _ ⟨-, related⟩
    exact related

theorem inStep_under (hF : Frame.Paired F) (h : InStep R) : InStep (Under F R) where
  counters := by
    rintro _ _ (@⟨f, g, s, t, frames, related⟩)
    have outside := h.counters s t related
    unfold counters at outside ⊢
    rw [note?, note?, hF.counters f g frames]
    cases g.note? countersNote with
    | some note => rfl
    | none => exact outside
  assign := by
    rintro _ _ name value ⟨frames, related⟩
    obtain ⟨left, right⟩ := hF.transient _ _ frames
    rw [assign, assign, if_pos left, if_pos right]
    exact .intro frames (h.assign _ _ name value related)
  count := by
    rintro _ _ note ⟨frames, related⟩
    -- both frames have counters, or none, and then it is counted outside
    rw [putNote, putNote, ← hF.counters _ _ frames]
    split
    next counting => exact .intro (hF.count _ _ note frames counting) related
    next => exact .intro frames (h.count _ _ note related)

end Scope

namespace Frame

/-- The frames around all iterations of a loop: they bind nothing. -/
def AroundLoop (f g : Frame) : Prop :=
  f = g ∧ f.bindings = [] ∧ f.isTransient = true

/-- The frames of one iteration, where the items are bound to different
    names. -/
def OfIteration (x y : String) (f g : Frame) : Prop :=
  ∃ v position, f = iterationFrame x v position ∧ g = iterationFrame y v position

theorem paired_aroundLoop : Paired AroundLoop where
  transient := by
    rintro f _ ⟨rfl, -, passed⟩
    exact ⟨passed, passed⟩
  counters := by
    rintro f _ ⟨rfl, -⟩
    rfl
  count := by
    rintro f _ note ⟨rfl, free, passed⟩ -
    exact ⟨rfl, free, passed⟩

theorem paired_ofIteration (x y : String) : Paired (OfIteration x y) where
  transient := by
    rintro _ _ ⟨v, position, rfl, rfl⟩
    exact ⟨rfl, rfl⟩
  counters := by
    rintro _ _ ⟨v, position, rfl, rfl⟩
    rfl
  count := by
    rintro _ _ note ⟨v, position, rfl, rfl⟩ counting
    cases counting

end Frame

/-! ## Section 3: Scopes that call names differently -/

/-- Does the renaming only ever give the name `y`, and leave `forloop` as it
    is? -/
structure Renames (y : String) (σ : String → String) : Prop where
  only : ∀ name, σ name = name ∨ σ name = y
  position : σ "forloop" = "forloop"
  other : y ≠ "forloop"

/-- Are the second scopes in step with the first ones, and do they know under
    a new name what the first ones know under the old one? -/
structure Scope.Calls (y : String) (σ : String → String) (R : Scope → Scope → Prop) : Prop
    extends Scope.InStep R where
  names : ∀ s t, R s t → ∀ name, name ≠ y → t.get? (σ name) = s.get? name

namespace Scope

/-- The scopes in which the body of a loop begins, where the items are bound
    to different names. -/
def InBody (x y : String) (R : Scope → Scope → Prop) : Scope → Scope → Prop :=
  Under (Frame.OfIteration x y) (Under Frame.AroundLoop R)

theorem lookup_iterationFrame (item : String) (v : Value) (position : LoopPosition)
    (name : String) :
    (iterationFrame item v position).bindings.lookup name =
      if name = "forloop" then some (.loop position)
      else if name = item then some v.native else none := by
  unfold iterationFrame Frame.passing Bindings.of
  by_cases here : name = "forloop"
  · subst here
    by_cases same : item = "forloop"
    · simp [same, Bindings.put]
    · have apart : ("forloop" == item) = false := beq_false_of_ne (Ne.symm same)
      simp [same, Bindings.put, List.lookup_cons, apart]
  · have apart : (name == "forloop") = false := beq_false_of_ne here
    by_cases same : item = "forloop"
    · simp [same, Bindings.put, List.lookup_cons, apart, here]
    · by_cases found : name = item
      · simp [same, found, Bindings.put]
      · have elsewhere : (name == item) = false := beq_false_of_ne found
        simp [same, Bindings.put, List.lookup_cons, apart, here, found, elsewhere]

/-- What a name stands for in the body of a loop. -/
theorem get?_inBody (x : String) (v : Value) (position : LoopPosition) {f : Frame}
    (free : f.bindings = []) (s : Scope) (name : String) :
    (child (iterationFrame x v position) (child f s)).get? name =
      if name = "forloop" then some (.loop position)
      else if name = x then some v.native else s.get? name := by
  rw [get?, get?, lookup_iterationFrame, free]
  by_cases here : name = "forloop"
  · rw [if_pos here, if_pos here]
  · rw [if_neg here, if_neg here]
    by_cases found : name = x
    · rw [if_pos found, if_pos found]
    · rw [if_neg found, if_neg found]
      rfl

/-- In the bodies of loops that bind their items to `x` and to `x'`, the first
    name is called by the second one, and all others as outside. -/
theorem Calls.inBody {y : String} {σ : String → String} {R : Scope → Scope → Prop}
    (h : Calls y σ R) {x x' : String} (position : x = "forloop" ↔ x' = "forloop")
    (apart : ∀ name, name ≠ y → name ≠ x → σ name ≠ x')
    (kept : ∀ name, name ≠ y → (σ name = "forloop" ↔ name = "forloop")) :
    Calls y (rebind σ x x') (InBody x x' R) where
  toInStep := inStep_under (Frame.paired_ofIteration x x')
    (inStep_under Frame.paired_aroundLoop h.toInStep)
  names := by
    rintro _ _ (@⟨_, _, _, _, ⟨v, p, rfl, rfl⟩, @⟨f, _, s, t, ⟨rfl, free, -⟩, related⟩⟩) name hname
    have outside := h.names s t related name hname
    -- a name is the position, or the item, or what it is outside of the loop
    rw [get?_inBody x v p free, get?_inBody x' v p free]
    unfold rebind
    by_cases item : name = x
    · simp only [item, if_true, position]
    · rw [if_neg item, if_neg item, if_neg (apart name hname item), outside]
      simp only [kept name hname]

end Scope

/-! ## Section 4: Nodes -/

section

variable {y : String} {σ : String → String} {R : Scope → Scope → Prop} {engine : Engine}

/-- Inside a loop whose items keep their name, that name stands for itself. -/
theorem Renames.inBody (h : Renames y σ) (item : String) : Renames y (rebind σ item item) where
  only := by
    intro name
    unfold rebind
    split
    next same => exact .inl same.symm
    next => exact h.only name
  position := by
    unfold rebind
    split
    next same => exact same.symm
    next => exact h.position
  other := h.other

theorem Renames.eq_position_iff (h : Renames y σ) {name : String} :
    σ name = "forloop" ↔ name = "forloop" := by
  constructor
  · intro position
    obtain same | new := h.only name
    · exact same.symm.trans position
    · exact absurd (new.symm.trans position) h.other
  · rintro rfl
    exact h.position

theorem Scope.Calls.nested (h : Calls y σ R) (renames : Renames y σ) {item : String}
    (fresh : y ≠ item) : Calls y (rebind σ item item) (InBody item item R) := by
  refine h.inBody Iff.rfl (fun name _ apart same => ?_) fun _ _ => renames.eq_position_iff
  obtain old | new := renames.only name
  · exact apart (old.symm.trans same)
  · exact fresh (new.symm.trans same)

theorem Scope.leads_aroundLoop : Frame.Leads R (Under Frame.AroundLoop R) .loop .loop :=
  leads_under ⟨rfl, rfl, rfl⟩

/-- Where the names are called otherwise, expressions are evaluated alike. -/
theorem Scope.Calls.names_eq (h : Calls y σ R) {e : Expr} (fresh : y ∉ e.variableNames)
    {s t : Scope} (related : R s t) :
    ∀ name ∈ e.variableNames, t.names (σ name) = s.names name := by
  intro name hname
  have known : name ≠ y := by
    rintro rfl
    exact fresh hname
  show Except.ok ((t.get? (σ name)).getD .nil) = .ok ((s.get? name).getD .nil)
  rw [h.names s t related name known]

theorem Scope.Calls.follows_eval (h : Calls y σ R) {e : Expr} (fresh : y ∉ e.variableNames) :
    Render.Follows False R (Render.eval engine e) (Render.eval engine (e.rename σ)) := by
  refine Render.follows_evaluate (fun s t moment related => .inl ?_) _ _
  exact (Expr.eval_rename_eq (h.names_eq fresh related) _).symm

/-- A loop inside is entered alike. -/
theorem Scope.Calls.alike (h : Calls y σ R) {header : LoopHeader}
    (fresh : ∀ e ∈ header.expressions, y ∉ e.variableNames) :
    header.Alike False R (InBody header.item header.item R) engine engine (header.rename σ) where
  walked := fun _ _ _ related => .inl
    (LoopHeader.walked_rename (fun e he => h.names_eq (fresh e he) related) _).symm
  cols := fun _ _ _ related => .inl
    (LoopHeader.cols_rename (fun e he => h.names_eq (fresh e he) related) _).symm
  limit := fun _ _ => agrees_refl _
  body := ⟨_, leads_aroundLoop, fun v position => leads_under ⟨v, position, rfl, rfl⟩⟩

namespace Node

theorem follows_anyEqual_rename (h : Scope.Calls y σ R) (subject : Value) {es : List Expr}
    (fresh : ∀ e ∈ es, y ∉ e.variableNames) :
    Render.Follows False R (anyEqual engine subject es)
      (anyEqual engine subject (Expr.renameAll σ es)) := by
  induction es with
  | nil => exact Render.follows_pure false
  | cons e es ih =>
    obtain ⟨here, later⟩ := List.forall_mem_cons.1 fresh
    exact follows_anyEqual_cons (h.follows_eval here) (ih later)

mutual

/-- A renamed node renders like the node itself where the new names are known
    for the old ones. -/
theorem render_rename {y : String} {σ : String → String} {R : Scope → Scope → Prop}
    (h : Scope.Calls y σ R) (renames : Renames y σ) : (n : Node) →
    (∀ e ∈ n.expressions, y ∉ e.variableNames) → y ∉ n.gather ownItems →
    Render.Follows False R (render engine n) (render engine (n.rename σ))
  | .text s, _, _ => by
    rw [rename, render]
    exact follows_piece s
  | .output e place, fresh, _ => by
    rw [expressions, List.forall_mem_singleton] at fresh
    rw [rename]
    exact follows_output (h.follows_eval fresh) place place
  | .assign name e place, fresh, _ => by
    rw [expressions, List.forall_mem_singleton] at fresh
    rw [rename]
    exact follows_assign h.toInStep name (h.follows_eval fresh) place place
  | .cycle c place, _, _ => by
    rw [rename]
    exact follows_cycle h.toInStep c place
  | .signal s _, _, _ => by
    rw [rename, render]
    exact Render.follows_pure s
  | .loop header body alternative _, fresh, items => by
    rw [expressions, List.forall_mem_append, List.forall_mem_append] at fresh
    rw [gather, List.mem_append, List.mem_append, not_or, not_or] at items
    obtain ⟨hheader, hbody, halternative⟩ := fresh
    obtain ⟨item, ibody, ialternative⟩ := items
    have apart : y ≠ header.item := fun same => item (List.mem_singleton.2 same)
    rw [rename, render, render]
    -- the body is in the frames of this loop, its alternative is not
    exact Render.follows_runFor (h.alike hheader)
      (renderAll_rename (h.nested renames apart) (renames.inBody header.item) body hbody ibody)
      (renderOption_rename h renames alternative halternative ialternative)
  | .table header body _, fresh, items => by
    rw [expressions, List.forall_mem_append] at fresh
    rw [gather, List.mem_append, not_or] at items
    have apart : y ≠ header.item := fun same => items.1 (List.mem_singleton.2 same)
    rw [rename, render, render]
    exact Render.follows_runTable (h.alike fresh.1)
      (renderAll_rename (h.nested renames apart) (renames.inBody header.item) body fresh.2 items.2)
  | .branch negated branches alternative _, fresh, items => by
    rw [expressions, List.forall_mem_append] at fresh
    rw [gather, List.mem_append, List.mem_append, not_or, not_or] at items
    rw [rename, render, render]
    have other := renderOption_rename h renames alternative fresh.2 items.2.2
    exact renderBranches_rename h renames branches fresh.1 items.2.1 other negated
  | .choice subject clauses alternative _, fresh, items => by
    rw [expressions, List.forall_mem_cons, List.forall_mem_append] at fresh
    rw [gather, List.mem_append, List.mem_append, not_or, not_or] at items
    obtain ⟨hsubject, hclauses, halternative⟩ := fresh
    rw [rename, render, render]
    have other := renderOption_rename h renames alternative halternative items.2.2
    refine Render.Follows.bind (h.follows_eval hsubject) fun v => ?_
    exact renderClauses_rename h renames clauses hclauses items.2.1 other v

theorem renderAll_rename {y : String} {σ : String → String} {R : Scope → Scope → Prop}
    (h : Scope.Calls y σ R) (renames : Renames y σ) : (ns : List Node) →
    (∀ e ∈ allExpressions ns, y ∉ e.variableNames) → y ∉ gatherAll ownItems ns →
    Render.Follows False R (renderAll engine ns) (renderAll engine (renameAll σ ns))
  | [], _, _ => by
    rw [renameAll, renderAll]
    exact Render.follows_pure _
  | n :: ns, fresh, items => by
    rw [allExpressions, List.forall_mem_append] at fresh
    rw [gatherAll, List.mem_append, not_or] at items
    rw [renameAll]
    exact follows_cons (render_rename h renames n fresh.1 items.1) (n.place?_rename σ)
      (renderAll_rename h renames ns fresh.2 items.2)

theorem renderOption_rename {y : String} {σ : String → String} {R : Scope → Scope → Prop}
    (h : Scope.Calls y σ R) (renames : Renames y σ) : (alternative : Option (List Node)) →
    (∀ e ∈ optionExpressions alternative, y ∉ e.variableNames) →
    y ∉ gatherOption ownItems alternative →
    Render.Follows False R (renderOption engine alternative)
      (renderOption engine (renameOption σ alternative))
  | none, _, _ => by
    rw [renameOption, renderOption]
    exact Render.follows_pure _
  | some ns, fresh, items => by
    rw [optionExpressions] at fresh
    rw [gatherOption] at items
    rw [renameOption, renderOption, renderOption]
    exact renderAll_rename h renames ns fresh items

theorem renderBranches_rename {y : String} {σ : String → String} {R : Scope → Scope → Prop}
    (h : Scope.Calls y σ R) (renames : Renames y σ) : (branches : List (Expr × List Node)) →
    (∀ e ∈ branchExpressions branches, y ∉ e.variableNames) →
    y ∉ gatherBranches ownItems branches → {alternative alternative' : Render Signal} →
    Render.Follows False R alternative alternative' → (negated : Bool) →
    Render.Follows False R (renderBranches engine negated alternative branches)
      (renderBranches engine negated alternative' (renameBranches σ branches))
  | [], _, _, _, _, other, _ => by
    rw [renameBranches, renderBranches, renderBranches]
    exact other
  | (condition, body) :: rest, fresh, items, _, _, other, _ => by
    rw [branchExpressions, List.forall_mem_cons, List.forall_mem_append] at fresh
    rw [gatherBranches, List.mem_append, not_or] at items
    obtain ⟨hcondition, hbody, hrest⟩ := fresh
    rw [renameBranches]
    exact follows_branch (h.follows_eval hcondition) (renderAll_rename h renames body hbody items.1)
      (renderBranches_rename h renames rest hrest items.2 other false)

theorem renderClauses_rename {y : String} {σ : String → String} {R : Scope → Scope → Prop}
    (h : Scope.Calls y σ R) (renames : Renames y σ) : (clauses : List (List Expr × List Node)) →
    (∀ e ∈ clauseExpressions clauses, y ∉ e.variableNames) →
    y ∉ gatherClauses ownItems clauses → {alternative alternative' : Render Signal} →
    Render.Follows False R alternative alternative' → (subject : Value) →
    Render.Follows False R (renderClauses engine subject alternative clauses)
      (renderClauses engine subject alternative' (renameClauses σ clauses))
  | [], _, _, _, _, other, _ => by
    rw [renameClauses, renderClauses, renderClauses]
    exact other
  | (alternatives, body) :: rest, fresh, items, _, _, other, subject => by
    rw [clauseExpressions, List.forall_mem_append, List.forall_mem_append] at fresh
    rw [gatherClauses, List.mem_append, not_or] at items
    obtain ⟨halternatives, hbody, hrest⟩ := fresh
    rw [renameClauses]
    exact follows_clause (follows_anyEqual_rename h subject halternatives)
      (renderAll_rename h renames body hbody items.1)
      (renderClauses_rename h renames rest hrest items.2 other subject)

end

/-! ## Section 5: Renamed loops -/

/-- The names that a node mentions, itself or in the nodes inside: as
    variables, or to bind the items of loops to. -/
def mentioned (n : Node) : List String :=
  n.expressions.flatMap Expr.variableNames ++ n.gather ownItems

end Node

/-- Without any names called otherwise. -/
theorem Scope.calls_self (y : String) : Calls y id Eq where
  toInStep := inStep_eq
  names := by
    rintro s _ rfl name -
    rfl

section

variable {x : String} (hx : x ≠ "forloop") (hy : y ≠ "forloop")

include hx hy

theorem renames_loop : Renames y (rebind id x y) where
  only := by
    intro name
    unfold rebind
    split
    · exact .inr rfl
    · exact .inl rfl
  position := if_neg (Ne.symm hx)
  other := hy

/-- In the body of the loop, the items are called by the new name. -/
theorem Scope.calls_loop : Calls y (rebind id x y) (InBody x y Eq) :=
  (calls_self y).inBody (iff_of_false hx hy) (fun _ known _ => known) fun _ _ => Iff.rfl

end

/-- The loop is entered alike. -/
theorem LoopHeader.alike_renamed (engine : Engine) (h : LoopHeader) (y : String) :
    h.Alike False Eq (Scope.InBody h.item y Eq) engine engine { h with item := y } where
  walked := by
    rintro s _ moment rfl
    exact agrees_refl _
  cols := by
    rintro s _ moment rfl
    exact agrees_refl _
  limit := fun _ _ => agrees_refl _
  body := ⟨_, Scope.leads_aroundLoop, fun v position => Scope.leads_under ⟨v, position, rfl, rfl⟩⟩

/-- A loop with its items called otherwise renders alike. -/
theorem Node.follows_renameLoop (engine : Engine) {n : Node} {x y : String}
    (loop : n.ownItems = [x]) (hx : x ≠ "forloop") (hy : y ≠ "forloop") (fresh : y ∉ n.mentioned) :
    Render.Follows False Eq (n.render engine) ((n.renameLoop y).render engine) := by
  unfold mentioned at fresh
  rw [List.mem_append, not_or, List.mem_flatMap] at fresh
  obtain ⟨apart, items⟩ := fresh
  have names : ∀ e ∈ n.expressions, y ∉ e.variableNames := fun e he hname =>
    apart ⟨e, he, hname⟩
  cases n with
  | loop h body alternative place =>
    obtain rfl : h.item = x := List.singleton_inj.1 loop
    -- only the body is renamed, so only what the body mentions matters
    rw [expressions, List.forall_mem_append, List.forall_mem_append] at names
    rw [gather, List.mem_append, List.mem_append, not_or, not_or] at items
    rw [renameLoop, render, render]
    exact Render.follows_runFor (h.alike_renamed engine y)
      (renderAll_rename (Scope.calls_loop hx hy) (renames_loop hx hy) body names.2.1 items.2.1)
      (follows_alternative alternative)
  | table h body place =>
    obtain rfl : h.item = x := List.singleton_inj.1 loop
    rw [expressions, List.forall_mem_append] at names
    rw [gather, List.mem_append, not_or] at items
    rw [renameLoop, render, render]
    exact Render.follows_runTable (h.alike_renamed engine y)
      (renderAll_rename (Scope.calls_loop hx hy) (renames_loop hx hy) body names.2 items.2)
  | _ => cases loop

/-- Renaming a loop variable is invisible.  Wherever a loop stands in a
    template, its items may be bound to any other name that the loop does not
    mention, if its body looks them up under that name: where the loop's own
    items are looked up, and not those of a loop inside that binds its items
    to the same name.  With any filters and settings, and in any scope, the
    template renders to the same output or the same failure, and leaves the
    same scope. -/
theorem Template.renderIn_renameLoop (t : Template) {n : Node} (inside : n ∈ t.inside)
    {x : String} (loop : n.ownItems = [x]) (hx : x ≠ "forloop") (hy : y ≠ "forloop")
    (fresh : y ∉ n.mentioned) :
    (∃ C : Node.Context, t.nodes = C.fill n) ∧
    ∀ C : Node.Context, t.nodes = C.fill n → ∀ (engine : Engine) (scope : Scope),
      let renamed : Template := ⟨C.fill (n.renameLoop y), t.source⟩
      (renamed.renderIn engine scope).result = (t.renderIn engine scope).result ∧
        (renamed.renderIn engine scope).scope = (t.renderIn engine scope).scope := by
  refine ⟨Node.exists_context inside, ?_⟩
  obtain ⟨nodes, source⟩ := t
  rintro C rfl engine scope
  have place : (n.renameLoop y).place? = n.place? := by
    cases n <;> rfl
  have alike := n.follows_renameLoop engine loop hx hy fresh
  obtain ⟨result, left⟩ := renderIn_fill alike place C source scope
  exact ⟨result.symm, left.symm⟩

end

/-- A loop around another one that binds its items to the same name. -/
def shadowed : Node :=
  .loop (.of "x" (.var "xs") [])
    [.loop (.of "x" (.range (.literal (.int 1)) (.var "x")) [])
      [.output (.var "x") ⟨.int 3, .int 1, ""⟩] none ⟨.int 2, .int 1, ""⟩]
    none ⟨.int 1, .int 1, ""⟩

/-- The header of the inner loop is renamed, and its body is not. -/
theorem shadowed_renamed :
    shadowed ∈ Template.inside ⟨[shadowed], ""⟩ ∧ shadowed.ownItems = ["x"] ∧
      "x" ≠ "forloop" ∧ "y" ≠ "forloop" ∧ "y" ∉ shadowed.mentioned ∧
      let renamed : Node :=
        .loop (.of "y" (.var "xs") [])
          [.loop (.of "x" (.range (.literal (.int 1)) (.var "y")) [])
            [.output (.var "x") ⟨.int 3, .int 1, ""⟩] none ⟨.int 2, .int 1, ""⟩]
          none ⟨.int 1, .int 1, ""⟩
      let scope : Scope := .ofBindings [("xs", .list [.int 1, .int 2])]
      (Template.renderIn (.standard .standard) ⟨[renamed], ""⟩ scope).result =
        (Template.renderIn (.standard .standard) ⟨[shadowed], ""⟩ scope).result := by
  have inside : shadowed ∈ Template.inside ⟨[shadowed], ""⟩ := List.mem_cons_self
  have hx : "x" ≠ "forloop" := by decide
  have hy : "y" ≠ "forloop" := by decide
  have fresh : "y" ∉ shadowed.mentioned := by decide
  obtain ⟨-, renamed⟩ := Template.renderIn_renameLoop ⟨[shadowed], ""⟩ inside rfl hx hy fresh
  exact ⟨inside, rfl, hx, hy, fresh, (renamed (.here [] []) rfl (.standard .standard) _).1⟩

end Stencil
