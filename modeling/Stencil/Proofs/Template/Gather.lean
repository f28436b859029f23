import Mathlib.Logic.Basic
import Stencil.Proofs.Statement.Agreement
import Stencil.Proofs.Template.Writes

/-! # What is inside nodes

    Whatever a node has itself, such as the name it assigns to, can be
    gathered from a whole tree of nodes: from the node and from all nodes
    inside, at any depth.  Of what is gathered, a template has the targets
    of its assignments, the names of its loops' items, and all names. -/

namespace Stencil

namespace Node

/-! ## Section 1: Gathering -/

section

variable {α : Type} (own : Node → List α)

mutual

/-- What a node and all nodes inside have, in order. -/
def gather : Node → List α
  | .text s => own (.text s)
  | .output e place => own (.output e place)
  | .assign name e place => own (.assign name e place)
  | .cycle c place => own (.cycle c place)
  | .signal s place => own (.signal s place)
  | .loop h body alternative place =>
    own (.loop h body alternative place) ++ (gatherAll body ++ gatherOption alternative)
  | .table h body place => own (.table h body place) ++ gatherAll body
  | .branch negated branches alternative place =>
    own (.branch negated branches alternative place) ++
      (gatherBranches branches ++ gatherOption alternative)
  | .choice subject clauses alternative place =>
    own (.choice subject clauses alternative place) ++
      (gatherClauses clauses ++ gatherOption alternative)

/-- What some nodes have. -/
def gatherAll : List Node → List α
  | [] => []
  | n :: ns => gather n ++ gatherAll ns

/-- What nodes that may be absent have. -/
def gatherOption : Option (List Node) → List α
  | none => []
  | some ns => gatherAll ns

/-- What the bodies of branches have. -/
def gatherBranches : List (Expr × List Node) → List α
  | [] => []
  | (_, body) :: rest => gatherAll body ++ gatherBranches rest

/-- What the bodies of clauses have. -/
def gatherClauses : List (List Expr × List Node) → List α
  | [] => []
  | (_, body) :: rest => gatherAll body ++ gatherClauses rest

end

variable {own}

theorem mem_gatherAll {a : α} {ns : List Node} :
    a ∈ gatherAll own ns ↔ ∃ n ∈ ns, a ∈ n.gather own := by
  induction ns with
  | nil => simp [gatherAll]
  | cons n ns ih => simp [gatherAll, ih]

theorem mem_gatherOption {a : α} {alternative : Option (List Node)} :
    a ∈ gatherOption own alternative ↔ ∃ ns ∈ alternative.toList, a ∈ gatherAll own ns := by
  cases alternative <;> simp [gatherOption]

theorem mem_gatherBranches {a : α} {branches : List (Expr × List Node)} :
    a ∈ gatherBranches own branches ↔ ∃ b ∈ branches, a ∈ gatherAll own b.2 := by
  induction branches with
  | nil => simp [gatherBranches]
  | cons b rest ih => simp [gatherBranches, ih]

theorem mem_gatherClauses {a : α} {clauses : List (List Expr × List Node)} :
    a ∈ gatherClauses own clauses ↔ ∃ c ∈ clauses, a ∈ gatherAll own c.2 := by
  induction clauses with
  | nil => simp [gatherClauses]
  | cons c rest ih => simp [gatherClauses, ih]

/-- What is gathered from a node is what it has itself, and what is gathered
    from its bodies. -/
theorem mem_gather (inLoop : Bool) {a : α} {n : Node} :
    a ∈ n.gather own ↔ a ∈ own n ∨ ∃ b ∈ n.bodies inLoop, a ∈ gatherAll own b.2 := by
  cases n with
  | loop h body alternative place =>
    rw [gather, List.mem_append, List.mem_append, mem_gatherOption, bodies]
    simp only [List.mem_cons, List.mem_map, exists_eq_or_imp, exists_exists_and_eq_and]
  | table h body place => simp [gather, bodies]
  | branch negated branches alternative place =>
    rw [gather, List.mem_append, List.mem_append, mem_gatherBranches, mem_gatherOption, bodies]
    simp only [List.mem_append, List.mem_map, or_and_right, exists_or, exists_exists_and_eq_and]
  | choice subject clauses alternative place =>
    rw [gather, List.mem_append, List.mem_append, mem_gatherClauses, mem_gatherOption, bodies]
    simp only [List.mem_append, List.mem_map, or_and_right, exists_or, exists_exists_and_eq_and]
  | _ => simp [gather, bodies]

/-- What holds of all that is gathered from a node holds of what the node
    and each node inside has. -/
theorem every_of_gather {q : α → Prop} {n : Node} (h : ∀ a ∈ n.gather own, q a) (inLoop : Bool) :
    Every (fun _ m => ∀ a ∈ own m, q a) inLoop n := by
  refine every_of_closed (P := fun m => ∀ a ∈ m.gather own, q a) ?_ ?_ inLoop n h
  · exact fun inLoop m hm a ha => hm a ((mem_gather inLoop).2 (.inl ha))
  · exact fun inLoop m hm b hb k hk a ha =>
      hm a ((mem_gather inLoop).2 (.inr ⟨b, hb, mem_gatherAll.2 ⟨k, hk, ha⟩⟩))

end

/-! ## Section 2: Names -/

/-- The name that a node assigns to. -/
def ownTargets : Node → List String
  | .assign name _ _ => [name]
  | _ => []

/-- The name that the items of a loop are bound to. -/
def ownItems : Node → List String
  | .loop h _ _ _ => [h.item]
  | .table h _ _ => [h.item]
  | _ => []

/-- A node assigns to its target only. -/
theorem assignsTo_of_ownTargets {targets : String → Prop} {n : Node}
    (h : ∀ name ∈ n.ownTargets, targets name) : n.AssignsTo targets := by
  cases n with
  | assign name e place => exact h name List.mem_cons_self
  | _ => exact trivial

/-- The names that the assignments in a node assign to. -/
def targets (n : Node) : List String :=
  n.gather ownTargets

end Node

namespace Template

/-- The names that the assignments in a template assign to. -/
def targets (t : Template) : List String :=
  Node.gatherAll Node.ownTargets t.nodes

/-- The names that the items of the loops in a template are bound to. -/
def items (t : Template) : List String :=
  Node.gatherAll Node.ownItems t.nodes

/-- The nodes of a template, with all nodes inside them. -/
def inside (t : Template) : List Node :=
  Node.gatherAll (fun n => [n]) t.nodes

end Template

end Stencil
