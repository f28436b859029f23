import Stencil.Proofs.Chunk.Trimming
import Stencil.Proofs.Loop.Matched
import Stencil.Proofs.Template.Acceptance
import Stencil.Template.Render

/-! # Templates wherever their tags stand

    Where a tag stands matters only to what failures are blamed on.  Chunks
    that are the same but for their positions are compiled to nodes that are
    the same but for their places, or both are refused, and such nodes are
    rendered alike. -/

namespace Stencil

/-! ## Section 1: Nodes without their places -/

/-- A place of which only the source is left. -/
def Place.unplaced (p : Place) : Place :=
  { p with line := .int 1, col := .int 1 }

namespace Node

mutual

/-- The node, wherever its tags stand. -/
def unplaced : Node → Node
  | .text s => .text s
  | .output e place => .output e place.unplaced
  | .assign name e place => .assign name e place.unplaced
  | .cycle c place => .cycle c place.unplaced
  | .signal s place => .signal s place.unplaced
  | .loop h body alternative place =>
    .loop h (unplacedAll body) (unplacedOption alternative) place.unplaced
  | .table h body place => .table h (unplacedAll body) place.unplaced
  | .branch negated branches alternative place =>
    .branch negated (unplacedBranches branches) (unplacedOption alternative) place.unplaced
  | .choice subject clauses alternative place =>
    .choice subject (unplacedClauses clauses) (unplacedOption alternative) place.unplaced

/-- Nodes, wherever their tags stand. -/
def unplacedAll : List Node → List Node
  | [] => []
  | n :: ns => unplaced n :: unplacedAll ns

/-- The same for nodes that may be absent. -/
def unplacedOption : Option (List Node) → Option (List Node)
  | none => none
  | some ns => some (unplacedAll ns)

/-- The same for branches. -/
def unplacedBranches : List (Expr × List Node) → List (Expr × List Node)
  | [] => []
  | (condition, body) :: rest => (condition, unplacedAll body) :: unplacedBranches rest

/-- The same for clauses. -/
def unplacedClauses : List (List Expr × List Node) → List (List Expr × List Node)
  | [] => []
  | (alternatives, body) :: rest => (alternatives, unplacedAll body) :: unplacedClauses rest

end

theorem unplacedAll_eq_map (ns : List Node) : unplacedAll ns = ns.map unplaced := by
  induction ns with
  | nil => rfl
  | cons n ns ih => rw [unplacedAll, ih, List.map_cons]

theorem unplacedBranches_eq_map (bs : List (Expr × List Node)) :
    unplacedBranches bs = bs.map fun b => (b.1, unplacedAll b.2) := by
  induction bs with
  | nil => rfl
  | cons b bs ih => rw [unplacedBranches, ih, List.map_cons]

theorem unplacedClauses_eq_map (cs : List (List Expr × List Node)) :
    unplacedClauses cs = cs.map fun c => (c.1, unplacedAll c.2) := by
  induction cs with
  | nil => rfl
  | cons c cs ih => rw [unplacedClauses, ih, List.map_cons]

end Node

/-! ## Section 2: The pass over chunks -/

namespace Block

/-- The block, wherever its tags stand. -/
def unplaced : Block → Block
  | .loop h => .loop h
  | .loopElse h body => .loopElse h (Node.unplacedAll body)
  | .table h => .table h
  | .branch negated done condition => .branch negated (Node.unplacedBranches done) condition
  | .branchElse negated done => .branchElse negated (Node.unplacedBranches done)
  | .choice subject => .choice subject
  | .clause subject done alternatives => .clause subject (Node.unplacedClauses done) alternatives
  | .choiceElse subject done => .choiceElse subject (Node.unplacedClauses done)

variable (b : Block) (body : List Node)

theorem role?_unplaced (name : String) : b.unplaced.role? name = b.role? name := by
  cases b with
  | branch negated done condition =>
    -- the clauses of the block are told by their names
    by_cases otherwise : name = "else"
    · subst otherwise
      rfl
    · by_cases clause : name = "elsif"
      · subst clause
        rfl
      · simp [unplaced, role?, endTag, otherwise, clause]
  | clause subject done alternatives =>
    by_cases otherwise : name = "else"
    · subst otherwise
      rfl
    · by_cases clause : name = "when"
      · subst clause
        rfl
      · simp [unplaced, role?, endTag, otherwise, clause]
  | _ => rfl

theorem close_unplaced (place : Place) :
    b.unplaced.close place.unplaced (Node.unplacedAll body) = (b.close place body).unplaced := by
  cases b <;>
    simp [unplaced, close, Node.unplaced, Node.unplacedOption, Node.unplacedBranches_eq_map,
      Node.unplacedClauses_eq_map, Node.unplacedAll_eq_map]

theorem otherwise?_unplaced :
    b.unplaced.otherwise? (Node.unplacedAll body) = (b.otherwise? body).map unplaced := by
  cases b <;>
    simp [unplaced, otherwise?, Node.unplacedBranches_eq_map, Node.unplacedClauses_eq_map]

theorem elsif?_unplaced (next : Expr) :
    b.unplaced.elsif? (Node.unplacedAll body) next = (b.elsif? body next).map unplaced := by
  cases b <;> simp [unplaced, elsif?, Node.unplacedBranches_eq_map]

theorem when?_unplaced (next : List Expr) :
    b.unplaced.when? (Node.unplacedAll body) next = (b.when? body next).map unplaced := by
  cases b <;> simp [unplaced, when?, Node.unplacedClauses_eq_map]

end Block

namespace Opened

/-- The open block, wherever its tags stand. -/
def unplaced (o : Opened) : Opened :=
  ⟨o.block.unplaced, o.tag, o.place.unplaced, Node.unplacedAll o.before⟩

end Opened

theorem toOption_bind {ε α β : Type} (x : Except ε α) (k : α → Except ε β) :
    (x >>= k).toOption = x.toOption.bind fun a => (k a).toOption := by
  cases x <;> rfl

/-- What comes behind two steps that are the same but for `u` is the same but
    for `v` if that is so of each way to go on. -/
theorem toOption_bind_of_map {ε α β : Type} {x y : Except ε α} {u : α → α} {v : β → β}
    {k l : α → Except ε β} (first : x.toOption = y.toOption.map u)
    (next : ∀ a, (k (u a)).toOption = (l a).toOption.map v) :
    (x >>= k).toOption = (y >>= l).toOption.map v := by
  rw [toOption_bind, toOption_bind, first, Option.bind_map, Option.map_bind]
  exact congrArg (Option.bind y.toOption) (funext next)

namespace Mark

/-- What the arguments of a mark are parsed to does not depend on where it
    stands. -/
theorem toOption_atMark {α : Type} (m n : Mark) (x : Except Fault α) :
    (atMark n x).toOption = (atMark m x).toOption := by
  cases x <;> rfl

end Mark

namespace Assembly

/-- The pass, wherever the tags stand. -/
def unplaced (a : Assembly) : Assembly :=
  ⟨Node.unplacedAll a.nodes, a.opened.map Opened.unplaced⟩

variable (a : Assembly)

theorem role_unplaced (name args : String) : a.unplaced.role name args = a.role name args := by
  unfold role unplaced
  cases a.opened with
  | nil => rfl
  | cons o outer =>
    simp only [List.map_cons, List.head?_cons, Option.bind_some, Opened.unplaced,
      Block.role?_unplaced]

theorem body_unplaced : a.unplaced.body = Node.unplacedAll a.body := by
  rw [body, body, unplaced, Node.unplacedAll_eq_map, Node.unplacedAll_eq_map, List.map_reverse]

theorem turn_unplaced {change : List Node → Block → Option Block}
    (h : ∀ body b, change (Node.unplacedAll body) b.unplaced = (change body b).map Block.unplaced) :
    a.unplaced.turn change = (a.turn change).unplaced := by
  have body := a.body_unplaced
  unfold turn
  cases opened : a.opened with
  | nil => simp [unplaced, opened]
  | cons o outer =>
    have opened' : a.unplaced.opened = o.unplaced :: outer.map Opened.unplaced := by
      simp [unplaced, opened]
    rw [opened', body]
    simp only [Opened.unplaced, h]
    cases change a.body o.block with
    | none => rfl
    | some next => rfl

theorem leave_unplaced : a.unplaced.leave = a.leave.unplaced := by
  have body := a.body_unplaced
  unfold leave
  cases opened : a.opened with
  | nil => simp [unplaced, opened]
  | cons o outer =>
    have opened' : a.unplaced.opened = o.unplaced :: outer.map Opened.unplaced := by
      simp [unplaced, opened]
    rw [opened', body]
    simp only [Opened.unplaced, Block.close_unplaced]
    rfl

/-- What is made of what has been parsed. -/
theorem toOption_bind_unplaced {α : Type} {x y : Except Failure α} {f g : α → Assembly}
    (same : x.toOption = y.toOption) (each : ∀ v, f v = (g v).unplaced) :
    (x >>= fun v => pure (f v) : Except Failure Assembly).toOption =
      (y >>= fun v => pure (g v) : Except Failure Assembly).toOption.map unplaced := by
  apply toOption_bind_of_map (u := id)
  · rw [same, Option.map_id, id]
  · intro v
    exact congrArg some (each v)

/-- A tag does the same wherever it stands. -/
theorem tag_unplaced (name : String) (m : Mark) :
    (a.unplaced.tag name m.unplaced).toOption = (a.tag name m).toOption.map unplaced := by
  have args : m.unplaced.args = m.args := rfl
  unfold tag
  rw [args, role_unplaced]
  -- a place only gets into nodes and failures, which are compared without it
  cases a.role name m.args with
  | loop => exact toOption_bind_unplaced (m.toOption_atMark _ _) fun _ => rfl
  | table => exact toOption_bind_unplaced (m.toOption_atMark _ _) fun _ => rfl
  | branch negated => exact toOption_bind_unplaced (m.toOption_atMark _ _) fun _ => rfl
  | choice => exact toOption_bind_unplaced (m.toOption_atMark _ _) fun _ => rfl
  | assign => exact toOption_bind_unplaced (m.toOption_atMark _ _) fun _ => rfl
  | cycle => exact toOption_bind_unplaced (m.toOption_atMark _ _) fun _ => rfl
  | signal s => rfl
  | elsif =>
    exact toOption_bind_unplaced (m.toOption_atMark _ _) fun condition =>
      a.turn_unplaced fun body b => b.elsif?_unplaced body condition
  | when =>
    exact toOption_bind_unplaced (m.toOption_atMark _ _) fun alternatives =>
      a.turn_unplaced fun body b => b.when?_unplaced body alternatives
  | otherwise =>
    exact congrArg some (a.turn_unplaced fun body b => b.otherwise?_unplaced body)
  | close => exact congrArg some a.leave_unplaced
  | refused cause => rfl

theorem chunk_unplaced (c : Chunk) :
    (a.unplaced.chunk c.unplaced).toOption = (a.chunk c).toOption.map unplaced := by
  cases c with
  | text s position => rfl
  | output m => exact toOption_bind_unplaced (m.toOption_atMark _ _) fun _ => rfl
  | tag name m => exact a.tag_unplaced name m

theorem pass_unplaced (cs : List Chunk) :
    ((cs.map Chunk.unplaced).foldlM chunk a.unplaced).toOption =
      (cs.foldlM chunk a).toOption.map unplaced := by
  induction cs generalizing a with
  | nil => rfl
  | cons c cs ih =>
    rw [List.map_cons, List.foldlM_cons, List.foldlM_cons]
    exact toOption_bind_of_map (a.chunk_unplaced c) ih

theorem finish_unplaced : a.unplaced.finish.toOption = a.finish.toOption.map Node.unplacedAll := by
  have body := a.body_unplaced
  unfold finish
  cases opened : a.opened with
  | nil =>
    have opened' : a.unplaced.opened = [] := by simp [unplaced, opened]
    rw [opened', body]
    rfl
  | cons o outer =>
    have opened' : a.unplaced.opened = o.unplaced :: outer.map Opened.unplaced := by
      simp [unplaced, opened]
    rw [opened']
    rfl

end Assembly

/-- Chunks are compiled to the same nodes wherever they stand, or are refused
    everywhere. -/
theorem compileChunks_unplaced (cs : List Chunk) :
    (compileChunks (cs.map Chunk.unplaced)).toOption =
      (compileChunks cs).toOption.map Node.unplacedAll :=
  toOption_bind_of_map (Assembly.pass_unplaced ⟨[], []⟩ cs) Assembly.finish_unplaced

/-! ## Section 3: Rendering -/

/-- Are the failures the same, but for what they are blamed on? -/
def Failure.SameFault (f g : Failure) : Prop :=
  f.fault = g.fault

theorem Failure.sameFault_self (fault : Fault) : SameFault fault.failure fault.failure := rfl

namespace Render

variable {α : Type} {engine : Engine}

theorem Matches.blamed {x y : Render α} (h : Matches Failure.SameFault x y) (p q : Place) :
    Matches Failure.SameFault (blaming p x) (blaming q y) := by
  intro run
  have inside := h run
  unfold blaming
  generalize x run = left at inside ⊢
  generalize y run = right at inside ⊢
  cases inside with
  | ok a after => exact .ok a after
  | error after same =>
    apply Run.Matched.error after
    rw [Failure.SameFault, Failure.fault_blame, Failure.fault_blame]
    exact same

theorem matches_lift_same (x : Except Fault α) : Matches Failure.SameFault (lift x) (lift x) :=
  matches_lift Failure.sameFault_self x

theorem matches_eval_same (e : Expr) :
    Matches Failure.SameFault (eval engine e) (eval engine e) :=
  matches_evaluate Failure.sameFault_self _ _

end Render

namespace Node

open Render

variable {engine : Engine}

theorem place?_unplaced (n : Node) : n.unplaced.place? = n.place?.map Place.unplaced := by
  cases n <;> rfl

theorem matches_anyEqual_same (subject : Value) (es : List Expr) :
    Matches Failure.SameFault (anyEqual engine subject es) (anyEqual engine subject es) := by
  induction es with
  | nil => exact matches_pure false
  | cons e es ih =>
    apply (matches_eval_same e).bind
    intro v
    apply (matches_lift_same _).bind
    intro same
    cases same with
    | true => exact matches_pure true
    | false => exact ih

mutual

/-- A node is rendered alike wherever its tags stand. -/
theorem render_unplaced : (n : Node) →
    Matches Failure.SameFault (render engine n) (render engine n.unplaced)
  | .text s => by
    rw [unplaced, render]
    exact (matches_modify _).bind fun _ => matches_pure _
  | .output e _ => by
    rw [unplaced, render, render]
    apply (matches_eval_same e).bind
    intro v
    apply (matches_lift_same _).bind
    exact fun _ => (matches_modify _).bind fun _ => matches_pure _
  | .assign name e _ => by
    rw [unplaced, render, render]
    apply (matches_eval_same e).bind
    exact fun _ => (matches_modify _).bind fun _ => matches_pure _
  | .cycle c _ => by
    rw [unplaced, render, render]
    apply (matches_runCycle Failure.sameFault_self c).bind
    exact fun _ => (matches_modify _).bind fun _ => matches_pure _
  | .signal s _ => by
    rw [unplaced, render, render]
    exact matches_pure s
  | .loop h body alternative _ => by
    rw [unplaced, render, render]
    exact matches_runFor Failure.sameFault_self h (renderAll_unplaced body)
      (renderOption_unplaced alternative)
  | .table h body _ => by
    rw [unplaced, render, render]
    exact matches_runTable Failure.sameFault_self h (renderAll_unplaced body)
  | .branch negated branches alternative _ => by
    rw [unplaced, render, render]
    exact renderBranches_unplaced branches (renderOption_unplaced alternative) negated
  | .choice subject clauses alternative _ => by
    rw [unplaced, render, render]
    apply (matches_eval_same subject).bind
    exact renderClauses_unplaced clauses (renderOption_unplaced alternative)

theorem renderAll_unplaced : (ns : List Node) →
    Matches Failure.SameFault (renderAll engine ns) (renderAll engine (unplacedAll ns))
  | [] => by
    rw [unplacedAll, renderAll]
    exact matches_pure _
  | n :: ns => by
    have here : Matches Failure.SameFault (blamingOption n.place? (render engine n))
        (blamingOption n.unplaced.place? (render engine n.unplaced)) := by
      rw [place?_unplaced]
      cases n.place? with
      | none => exact render_unplaced n
      | some place => exact (render_unplaced n).blamed place place.unplaced
    rw [unplacedAll, renderAll, renderAll]
    apply (matches_modify _).bind
    intro _
    apply here.bind
    intro signal
    split
    · exact renderAll_unplaced ns
    · exact matches_pure _

theorem renderOption_unplaced : (alternative : Option (List Node)) →
    Matches Failure.SameFault (renderOption engine alternative)
      (renderOption engine (unplacedOption alternative))
  | none => by
    rw [unplacedOption, renderOption]
    exact matches_pure _
  | some ns => by
    rw [unplacedOption, renderOption, renderOption]
    exact renderAll_unplaced ns

theorem renderBranches_unplaced : (branches : List (Expr × List Node)) →
    {alternative alternative' : Render Signal} →
    Matches Failure.SameFault alternative alternative' → (negated : Bool) →
    Matches Failure.SameFault (renderBranches engine negated alternative branches)
      (renderBranches engine negated alternative' (unplacedBranches branches))
  | [], _, _, other, negated => by
    rw [unplacedBranches, renderBranches, renderBranches]
    exact other
  | (condition, body) :: rest, _, _, other, negated => by
    rw [unplacedBranches, renderBranches, renderBranches]
    apply (matches_eval_same condition).bind
    intro v
    apply (matches_lift_same _).bind
    intro truth
    split
    · exact renderAll_unplaced body
    · exact renderBranches_unplaced rest other false

theorem renderClauses_unplaced : (clauses : List (List Expr × List Node)) →
    {alternative alternative' : Render Signal} →
    Matches Failure.SameFault alternative alternative' → (subject : Value) →
    Matches Failure.SameFault (renderClauses engine subject alternative clauses)
      (renderClauses engine subject alternative' (unplacedClauses clauses))
  | [], _, _, other, subject => by
    rw [unplacedClauses, renderClauses, renderClauses]
    exact other
  | (alternatives, body) :: rest, _, _, other, subject => by
    rw [unplacedClauses, renderClauses, renderClauses]
    apply (matches_anyEqual_same subject alternatives).bind
    intro found
    split
    · exact renderAll_unplaced body
    · exact renderClauses_unplaced rest other subject

end

end Node

/-! ## Section 4: Templates -/

/-- A template ends with the same output wherever its tags stand. -/
theorem Template.result_unplaced (t : Template) (engine : Engine) (scope : Scope) (source : String) :
    (t.renderIn engine scope).result.toOption =
      ((⟨Node.unplacedAll t.nodes, source⟩ : Template).renderIn engine scope).result.toOption := by
  have whole : Render.Matches Failure.SameFault (t.render engine)
      ((⟨Node.unplacedAll t.nodes, source⟩ : Template).render engine) := by
    apply (Node.renderAll_unplaced t.nodes).bind
    intro signal
    split
    · exact Render.matches_pure ()
    · exact fun run => .error run rfl
  have outcome := whole ⟨scope, #[], #[], engine.moment⟩
  unfold renderIn
  generalize t.render engine _ = left at outcome ⊢
  generalize Template.render engine _ _ = right at outcome ⊢
  cases outcome with
  | ok _ after => rfl
  | error after _ => rfl

end Stencil
