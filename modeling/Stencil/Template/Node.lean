import Stencil.Chunk.Basic
import Stencil.Statement.Basic

/-! # Nodes

    A compiled template is a list of nodes.  Every node but text carries
    the place of its tag, which failures inside are blamed on. -/

namespace Stencil

/-- A node of a template. -/
inductive Node where
  | text (s : String)
  | output (e : Expr) (place : Place)
  | assign (name : String) (e : Expr) (place : Place)
  | cycle (c : Cycle) (place : Place)
  | signal (s : Signal) (place : Place)
  /-- A loop, with what is rendered in its place when there are no items. -/
  | loop (header : LoopHeader) (body : List Node) (alternative : Option (List Node))
      (place : Place)
  | table (header : LoopHeader) (body : List Node) (place : Place)
  /-- Branches with conditions, the first of which may be negated. -/
  | branch (negated : Bool) (branches : List (Expr × List Node))
      (alternative : Option (List Node)) (place : Place)
  /-- A subject, and bodies for the values that it may equal. -/
  | choice (subject : Expr) (clauses : List (List Expr × List Node))
      (alternative : Option (List Node)) (place : Place)

/-- The place of a node. -/
def Node.place? : Node → Option Place
  | .text _ => none
  | .output _ place | .assign _ _ place | .cycle _ place | .signal _ place
  | .loop _ _ _ place | .table _ _ place | .branch _ _ _ place | .choice _ _ _ place => some place

/-- A compiled template. -/
structure Template where
  nodes : List Node
  source : String

end Stencil
