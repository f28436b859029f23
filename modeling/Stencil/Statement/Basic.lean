import Stencil.Token.Basic

/-! # Expressions and statements

    What the arguments of outputs and tags say: an expression, an
    assignment, a cycle, the header of a loop, or the alternatives of a
    `when` clause. -/

namespace Stencil

/-! ## Section 1: Expressions -/

/-- The relations between two values. -/
inductive Relation where
  | eq
  | neq
  | lt
  | gt
  | le
  | ge
  | contains
  | isIn
deriving DecidableEq

/-- An expression. -/
inductive Expr where
  | literal (value : Literal)
  | var (name : String)
  | property (object : Expr) (name : String)
  | index (object key : Expr)
  | range (low high : Expr)
  | compare (relation : Relation) (left right : Expr)
  | and (left right : Expr)
  | or (left right : Expr)
  | filter (receiver : Expr) (name : String) (args : List Expr)

/-- How a relation is spelled. -/
def Relation.spelling : Relation → String
  | .eq => "=="
  | .neq => "!="
  | .lt => "<"
  | .gt => ">"
  | .le => "<="
  | .ge => ">="
  | .contains => "contains"
  | .isIn => "in"

namespace Expr

mutual

/-- The source of an expression in outline: operators in their place, but
    no parentheses, and literals as messages show them. -/
def outline : Expr → String
  | .literal value => value.display
  | .var name => name
  | .property object name => outline object ++ "." ++ name
  | .index object key => outline object ++ "[" ++ outline key ++ "]"
  | .range low high => "(" ++ outline low ++ ".." ++ outline high ++ ")"
  | .compare relation left right =>
    outline left ++ " " ++ relation.spelling ++ " " ++ outline right
  | .and left right => outline left ++ " and " ++ outline right
  | .or left right => outline left ++ " or " ++ outline right
  | .filter receiver name args => outline receiver ++ " | " ++ name ++ outlineArgs ": " args

/-- The outlines of filter arguments, each after a separator: `lead` before
    the first, a comma before every other. -/
def outlineArgs (lead : String) : List Expr → String
  | [] => ""
  | arg :: args => lead ++ outline arg ++ outlineArgs ", " args

end

end Expr

/-! ## Section 2: Statements -/

/-- A cycle: the group it belongs to, empty if it has no name, and the texts
    it runs through, of which there is at least one. -/
structure Cycle where
  group : String
  first : String
  rest : List String

/-- The texts of a cycle in order. -/
def Cycle.values (c : Cycle) : List String :=
  c.first :: c.rest

/-- The header of a loop: the name that the items are bound to, where they
    come from, and the modifiers. -/
structure LoopHeader where
  item : String
  source : Expr
  reversed : Bool
  limit : Option Expr
  offset : Option Expr
  cols : Option Expr

/-- A modifier in the header of a loop. -/
inductive Modifier where
  | reversed
  | limit (count : Expr)
  | offset (count : Expr)
  | cols (count : Expr)

/-- The header with one more modifier; a later one replaces an earlier one. -/
def LoopHeader.modify (h : LoopHeader) : Modifier → LoopHeader
  | .reversed => { h with reversed := true }
  | .limit count => { h with limit := some count }
  | .offset count => { h with offset := some count }
  | .cols count => { h with cols := some count }

/-- A header with modifiers, given in order. -/
def LoopHeader.of (item : String) (source : Expr) (modifiers : List Modifier) : LoopHeader :=
  modifiers.foldl LoopHeader.modify ⟨item, source, false, none, none, none⟩

/-- What the arguments of an output or tag say. -/
inductive Statement where
  | expression (e : Expr)
  | assignment (name : String) (e : Expr)
  | cycle (c : Cycle)
  | loop (header : LoopHeader)
  | when (alternatives : List Expr)

end Stencil
