import Stencil.Text.Search

/-! # Paths

    The parts of a path, its file name, and the suffix of that. -/

namespace Stencil.Path

/-- The parts of a path.  Empty parts and parts of a single dot lead
    nowhere. -/
def parts (path : String) : List String :=
  ((Text.split ['/'] path.toList).filter fun part => part ≠ [] && part ≠ ['.']).map String.ofList

/-- A path as messages show it, with its parts only. -/
def shown (path : String) : String :=
  let root := path.toList.takeWhile (· = '/')
  let front := if root.length = 2 then "//" else if root.isEmpty then "" else "/"
  if front = "" ∧ parts path = [] then "."
  else front ++ String.intercalate "/" (parts path)

/-- The last part of a path; empty if it has none. -/
def fileName (path : String) : String :=
  (parts path).getLastD ""

/-- The suffix of a file name: its last dot and what follows.  The dot
    neither starts nor ends the name. -/
def suffix (name : String) : String :=
  let behind := (name.toList.reverse.takeWhile (· ≠ '.')).reverse
  if behind = [] ∨ name.length ≤ behind.length + 1 then ""
  else String.ofList ('.' :: behind)

end Stencil.Path
