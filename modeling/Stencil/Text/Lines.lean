/-! # Lines of text

    Two notions of a line.  Positions count line feeds only; the excerpt of
    a source breaks at every line boundary: line feed, carriage return (one
    boundary together with a line feed after it), vertical tab, form feed,
    the separators U+001C to U+001E, next line, and the line and paragraph
    separators. -/

namespace Stencil.Text

/-! ## Boundaries -/

/-- Does a line end at `c`? -/
def isLineBoundary (c : Char) : Bool :=
  (0x0A ≤ c.toNat && c.toNat ≤ 0x0D) || (0x1C ≤ c.toNat && c.toNat ≤ 0x1E) ||
  c.toNat = 0x85 || c.toNat = 0x2028 || c.toNat = 0x2029

/-- The lines of a text, after the reversed `line` begun.  A boundary at the
    very end opens no further line. -/
def linesFrom : List Char → List Char → List (List Char)
  | line, [] => if line.isEmpty then [] else [line.reverse]
  | line, '\r' :: '\n' :: cs => line.reverse :: linesFrom [] cs
  | line, c :: cs =>
    if isLineBoundary c then line.reverse :: linesFrom [] cs
    else linesFrom (c :: line) cs

/-- The lines of a text, without their boundaries. -/
def lines (cs : List Char) : List (List Char) :=
  linesFrom [] cs

/-! ## Positions -/

/-- A position: the line, counted from 1 by line feeds, and the column,
    counted from 1 in characters. -/
structure Position where
  line : Nat
  col : Nat
deriving DecidableEq

/-- The first character of a text. -/
def Position.start : Position := ⟨1, 1⟩

/-- The position after one more character. -/
def Position.step (p : Position) (c : Char) : Position :=
  if c = '\n' then ⟨p.line + 1, 1⟩ else ⟨p.line, p.col + 1⟩

/-- The position after some characters. -/
def Position.advance (p : Position) (cs : List Char) : Position :=
  cs.foldl Position.step p

end Stencil.Text
