import Stencil.Proofs.Template.Contained
import Stencil.Proofs.Token.Scan
import Stencil.Template.Compile

/-! # What compilation gives and fails with

    Every node of a compiled template stands at a place with numbers for its
    line and column, and so does every failure of a compilation.  The fault
    is one of the source: it is malformed, or holds an integer with too many
    digits. -/

namespace Stencil

/-! ## Section 1: Places and failures -/

/-- Are the line and the column of a place numbers? -/
def Place.IsNumbered (p : Place) : Prop :=
  ∃ line col : Int, p.line = .int line ∧ p.col = .int col

theorem Mark.place_isNumbered (m : Mark) : m.place.IsNumbered :=
  ⟨m.position.line, m.position.col, rfl, rfl⟩

/-- Is this what a compilation may fail with? -/
structure Failure.IsOfSource (f : Failure) : Prop where
  fault : f.fault.IsOfSource
  place : ∀ p, f.place = some p → p.IsNumbered

theorem Fault.IsOfSource.blame {f : Fault} (h : f.IsOfSource) {place : Place}
    (hp : place.IsNumbered) : (f.failure.blame place).IsOfSource := by
  obtain ⟨cause, rfl⟩ | ⟨cause, rfl, unguarded⟩ := h
  · refine ⟨.inl ⟨cause, rfl⟩, fun p same => ?_⟩
    cases same
    exact hp
  · exact ⟨.inr ⟨cause, rfl, unguarded⟩, nofun⟩

theorem malformed_isOfSource (cause : Malformed) {place : Place} (hp : place.IsNumbered) :
    ((Fault.malformed cause).failure.blame place).IsOfSource :=
  Fault.IsOfSource.blame (.inl ⟨cause, rfl⟩) hp

/-! ## Section 2: Arguments -/

theorem parse_meets (source : String) :
    Meets (fun _ => True) Fault.IsOfSource (parse source) := by
  have scanned : Meets (fun _ => True) Fault.IsOfSource (scan source) :=
    (scan_meets source).mono (fun _ h => h) fun _ h => h.isOfSource
  refine Meets.bind scanned fun tokens _ => ?_
  exact Meets.mapError (meets_true _) fun cause _ => .inl ⟨cause, rfl⟩

theorem parseExpression_meets (source : String) :
    Meets (fun _ => True) Fault.IsOfSource (parseExpression source) := by
  refine Meets.bind (parse_meets source) fun statement _ => ?_
  split
  · exact .ok trivial
  · exact .error (.inl ⟨_, rfl⟩)

theorem parseForm_meets (form : Form) (source : String) :
    Meets (fun _ => True) Fault.IsOfSource (parseForm form source) := by
  cases form with
  | expression => exact Meets.map (parseExpression_meets source) fun _ _ => trivial
  | selected s => exact parse_meets _

namespace Mark

variable (m : Mark)

theorem atMark_meets {α : Type} {x : Except Fault α}
    (h : Meets (fun _ => True) Fault.IsOfSource x) :
    Meets (fun _ => True) Failure.IsOfSource (atMark m x) :=
  h.mapError fun _ hf => hf.blame m.place_isNumbered

theorem expression_meets : Meets (fun _ => True) Failure.IsOfSource m.expression :=
  m.atMark_meets (parseExpression_meets m.args)

theorem selected_meets {α : Type} (s : Selector) (pick : Statement → Option α) :
    Meets (fun _ => True) Failure.IsOfSource (m.selected s pick) := by
  refine m.atMark_meets (Meets.bind (parseForm_meets (.selected s) m.args) fun statement _ => ?_)
  split
  · exact .ok trivial
  · exact .error (.inl ⟨_, rfl⟩)

end Mark

/-! ## Section 3: Segments -/

theorem cutFrom_meets (cs piece : List Char) (begin position : Text.Position) (skip : Nat) :
    Meets (fun _ => True) Failure.IsOfSource (cutFrom piece begin position skip cs) := by
  induction cs generalizing piece begin position skip with
  | nil =>
    rw [cutFrom]
    exact .ok trivial
  | cons c rest ih =>
    cases skip with
    | succ skip =>
      rw [cutFrom]
      exact ih _ _ _ _
    | zero =>
      rw [cutFrom]
      split
      · exact ih _ _ _ _
      next d _ =>
        -- refused is only a raw text or a comment without its end, at the place where it begins
        split
        · exact Meets.bind (ih _ _ _ _) fun _ _ => .ok trivial
        · simp only
          split
          · exact .error (malformed_isOfSource _ (Mark.place_isNumbered _))
          · exact Meets.bind (ih _ _ _ _) fun _ _ => .ok trivial
        · simp only
          split
          · exact .error (malformed_isOfSource _ (Mark.place_isNumbered _))
          · exact Meets.bind (ih _ _ _ _) fun _ _ => .ok trivial
        · exact Meets.bind (ih _ _ _ _) fun _ _ => .ok trivial

theorem Chunk.scan_meets (source : String) :
    Meets (fun _ => True) Failure.IsOfSource (Chunk.scan source) :=
  Meets.map (cutFrom_meets source.toList _ _ _ _) fun _ _ => trivial

/-! ## Section 4: Nodes -/

/-- Do a node and all nodes inside stand at numbered places? -/
def Node.Placed (n : Node) : Prop :=
  ∀ inLoop, Node.Every (fun _ n => ∀ p, n.place? = some p → p.IsNumbered) inLoop n

theorem Node.placed_intro {n : Node} (here : ∀ p, n.place? = some p → p.IsNumbered)
    (inner : ∀ inLoop, ∀ b ∈ n.bodies inLoop, ∀ m ∈ b.2, m.Placed) : n.Placed :=
  fun inLoop => .intro here fun b hb m hm => inner inLoop b hb m hm b.1

/-- A node without bodies. -/
theorem Node.placed_leaf {n : Node} (here : ∀ p, n.place? = some p → p.IsNumbered)
    (noBodies : ∀ inLoop, n.bodies inLoop = []) : n.Placed := by
  refine Node.placed_intro here fun inLoop b hb => ?_
  rw [noBodies] at hb
  cases hb

namespace Block

/-- The bodies of a block that are complete. -/
def complete : Block → List (List Node)
  | .loop _ | .table _ | .choice _ => []
  | .loopElse _ body => [body]
  | .branch _ done _ | .branchElse _ done => done.map (·.2)
  | .clause _ done _ | .choiceElse _ done => done.map (·.2)

/-- Do all nodes of complete bodies stand at numbered places? -/
def Placed (b : Block) : Prop :=
  ∀ ns ∈ b.complete, ∀ n ∈ ns, n.Placed

variable {b b' : Block} {body : List Node}

theorem bodies_close {place : Place} {inLoop : Bool} {c : Bool × List Node}
    (h : c ∈ (b.close place body).bodies inLoop) : c.2 = body ∨ c.2 ∈ b.complete := by
  -- a body of the closed block is the one at hand or was complete before
  cases b with
  | loop _ | table _ =>
    rw [List.mem_singleton.1 h]
    exact .inl rfl
  | loopElse _ items =>
    rcases List.mem_cons.1 h with rfl | h
    · exact .inr List.mem_cons_self
    · rw [List.mem_singleton.1 h]
      exact .inl rfl
  | branch _ done _ | clause _ done _ =>
    simp only [close, Node.bodies, List.map_append, List.mem_append, Option.toList_none,
      List.map_nil, List.not_mem_nil, or_false, List.map_cons, List.mem_singleton] at h
    obtain h | rfl := h
    · obtain ⟨d, hd, rfl⟩ := List.mem_map.1 h
      exact .inr (List.mem_map_of_mem hd)
    · exact .inl rfl
  | branchElse _ done | choiceElse _ done =>
    simp only [close, Node.bodies, List.mem_append, Option.toList_some,
      List.map_nil, List.map_cons, List.mem_singleton] at h
    obtain h | rfl := h
    · obtain ⟨d, hd, rfl⟩ := List.mem_map.1 h
      exact .inr (List.mem_map_of_mem hd)
    · exact .inl rfl
  | choice _ => cases h

theorem Placed.close (h : b.Placed) (hbody : ∀ n ∈ body, n.Placed) {place : Place}
    (hp : place.IsNumbered) : (b.close place body).Placed := by
  have here : (b.close place body).place? = some place := by
    cases b <;> rfl
  refine Node.placed_intro (fun p hp' => ?_) fun inLoop c hc m hm => ?_
  · rw [here] at hp'
    cases hp'
    exact hp
  · obtain same | done := bodies_close hc
    · exact hbody m (same ▸ hm)
    · exact h c.2 done m hm

/-- The complete bodies of a block that goes on after `body` are those that
    it had, and perhaps `body`. -/
theorem Placed.turn (h : b.Placed) (hbody : ∀ n ∈ body, n.Placed)
    (grows : ∀ ns ∈ b'.complete, ns = body ∨ ns ∈ b.complete) : b'.Placed := by
  intro ns hns
  obtain rfl | done := grows ns hns
  · exact hbody
  · exact h ns done

theorem complete_otherwise? (h : b.otherwise? body = some b') :
    ∀ ns ∈ b'.complete, ns = body ∨ ns ∈ b.complete := by
  intro ns hns
  cases b <;> cases h <;> simp_all [complete, or_comm]

theorem complete_elsif? {next : Expr} (h : b.elsif? body next = some b') :
    ∀ ns ∈ b'.complete, ns = body ∨ ns ∈ b.complete := by
  intro ns hns
  cases b <;> cases h
  simp_all [complete, or_comm]

theorem complete_when? {next : List Expr} (h : b.when? body next = some b') :
    ∀ ns ∈ b'.complete, ns = body ∨ ns ∈ b.complete := by
  intro ns hns
  cases b <;> cases h <;> simp_all [complete, or_comm]

end Block

/-! ## Section 5: The pass -/

/-- Is all that is kept of a block under way at numbered places? -/
structure Opened.Placed (o : Opened) : Prop where
  block : o.block.Placed
  place : o.place.IsNumbered
  before : ∀ n ∈ o.before, n.Placed

namespace Assembly

/-- Is all that is kept of the pass at numbered places? -/
structure Placed (a : Assembly) : Prop where
  nodes : ∀ n ∈ a.nodes, n.Placed
  opened : ∀ o ∈ a.opened, o.Placed

variable {a : Assembly}

theorem Placed.body (h : a.Placed) : ∀ n ∈ a.body, n.Placed :=
  fun n hn => h.nodes n (List.mem_reverse.1 hn)

theorem Placed.push (h : a.Placed) {n : Node} (hn : n.Placed) : (a.push n).Placed :=
  ⟨List.forall_mem_cons.2 ⟨hn, h.nodes⟩, h.opened⟩

theorem Placed.enter (h : a.Placed) (tag : String) {place : Place} (hp : place.IsNumbered)
    {block : Block} (hb : block.Placed) : (a.enter tag place block).Placed :=
  ⟨nofun, List.forall_mem_cons.2 ⟨⟨hb, hp, h.nodes⟩, h.opened⟩⟩

theorem Placed.turn (h : a.Placed) {change : List Node → Block → Option Block}
    (grows : ∀ body b b', change body b = some b' →
      ∀ ns ∈ b'.complete, ns = body ∨ ns ∈ b.complete) : (a.turn change).Placed := by
  unfold Assembly.turn
  split
  · exact h
  next o rest opened =>
    have all := h.opened
    rw [opened] at all
    obtain ⟨ho, hrest⟩ := List.forall_mem_cons.1 all
    split
    next b' changed =>
      have block := ho.block.turn h.body (grows _ _ _ changed)
      exact ⟨nofun, List.forall_mem_cons.2 ⟨⟨block, ho.place, ho.before⟩, hrest⟩⟩
    next => exact h

theorem Placed.leave (h : a.Placed) : a.leave.Placed := by
  unfold Assembly.leave
  split
  · exact h
  next o rest opened =>
    have all := h.opened
    rw [opened] at all
    obtain ⟨ho, hrest⟩ := List.forall_mem_cons.1 all
    exact ⟨List.forall_mem_cons.2 ⟨ho.block.close h.body ho.place, ho.before⟩, hrest⟩

theorem placed_at_mark {n : Node} {m : Mark} (here : n.place? = some m.place)
    (noBodies : ∀ inLoop, n.bodies inLoop = []) : n.Placed := by
  refine Node.placed_leaf (fun p hp => ?_) noBodies
  rw [here] at hp
  cases hp
  exact m.place_isNumbered

theorem Placed.tag (h : a.Placed) (name : String) (m : Mark) :
    Meets Placed Failure.IsOfSource (a.tag name m) := by
  have place := m.place_isNumbered
  unfold Assembly.tag
  split
  · exact Meets.bind (m.selected_meets _ _) fun _ _ => .ok (h.enter name place nofun)
  · exact Meets.bind (m.selected_meets _ _) fun _ _ => .ok (h.enter name place nofun)
  · exact Meets.bind m.expression_meets fun _ _ => .ok (h.enter name place nofun)
  · exact Meets.bind m.expression_meets fun _ _ => .ok (h.enter name place nofun)
  · exact Meets.bind (m.selected_meets _ _) fun _ _ =>
      .ok (h.push (placed_at_mark rfl fun _ => rfl))
  · exact Meets.bind (m.selected_meets _ _) fun _ _ =>
      .ok (h.push (placed_at_mark rfl fun _ => rfl))
  · exact .ok (h.push (placed_at_mark rfl fun _ => rfl))
  · exact Meets.bind m.expression_meets fun _ _ =>
      .ok (h.turn fun _ _ _ changed => Block.complete_elsif? changed)
  · exact Meets.bind (m.selected_meets _ _) fun _ _ =>
      .ok (h.turn fun _ _ _ changed => Block.complete_when? changed)
  · exact .ok (h.turn fun _ _ _ changed => Block.complete_otherwise? changed)
  · exact .ok h.leave
  · exact .error (malformed_isOfSource _ place)

theorem Placed.chunk (h : a.Placed) (c : Chunk) :
    Meets Placed Failure.IsOfSource (a.chunk c) := by
  cases c with
  | text s position => exact .ok (h.push (Node.placed_leaf nofun fun _ => rfl))
  | output m =>
    exact Meets.bind m.expression_meets fun _ _ =>
      .ok (h.push (placed_at_mark rfl fun _ => rfl))
  | tag name m => exact h.tag name m

theorem Placed.chunks (h : a.Placed) (chunks : List Chunk) :
    Meets Placed Failure.IsOfSource (chunks.foldlM Assembly.chunk a) := by
  induction chunks generalizing a with
  | nil => exact .ok h
  | cons c chunks ih =>
    rw [List.foldlM_cons]
    exact Meets.bind (h.chunk c) fun _ next => ih next

theorem Placed.finish (h : a.Placed) :
    Meets (fun ns => ∀ n ∈ ns, n.Placed) Failure.IsOfSource a.finish := by
  unfold Assembly.finish
  split
  · exact .ok h.body
  next o rest opened =>
    have all := h.opened
    rw [opened] at all
    exact .error (malformed_isOfSource _ (all o List.mem_cons_self).place)

end Assembly

/-- The nodes of a compiled template stand at numbered places. -/
theorem Template.compile_meets (source : String) :
    Meets (fun t : Template => ∀ n ∈ t.nodes, n.Placed) Failure.IsOfSource
      (Template.compile source) := by
  have start : Assembly.Placed ⟨[], []⟩ := ⟨nofun, nofun⟩
  refine Meets.bind (Chunk.scan_meets source) fun chunks _ => ?_
  refine Meets.bind (Meets.bind (start.chunks chunks) fun a placed => placed.finish) fun ns hns => ?_
  exact .ok hns

end Stencil
