import Stencil.OperandFault

/-! # The debug log

    An entry of the log is a line with a mark at its start.  Its parts are
    written one after another, so a part that cannot be written cuts the
    line off. -/

namespace Stencil.Log

/-- What every line starts with. -/
def mark : String := "[DBG]"

/-- The parts of a line, up to the first that cannot be written. -/
def parts : List (Except OperandFault String) → String
  | [] => "\n"
  | .ok part :: rest => " " ++ part ++ parts rest
  | .error _ :: _ => " "

/-- The entry with some parts. -/
def entry (ps : List (Except OperandFault String)) : String :=
  mark ++ parts ps

/-- The entry with one part that can be written. -/
def line (text : String) : String :=
  entry [.ok text]

end Stencil.Log
