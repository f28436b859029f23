import Stencil.Chunk.Segment

/-! # Chunks

    What a template is compiled from: texts, outputs and tags in order.
    Text next to a trim dash loses the white space on that side.  The
    bodies of raw blocks are text; their tags, and comments, leave no
    chunk. -/

namespace Stencil

open Text

/-- A chunk of a template. -/
inductive Chunk where
  | text (s : String) (position : Position)
  | output (m : Mark)
  | tag (name : String) (m : Mark)
deriving DecidableEq

namespace Chunk

/-- Does the chunk trim the text behind it? -/
def trimsRight : Chunk → Bool
  | text _ _ => false
  | output m => m.trimRight
  | tag _ m => m.trimRight

/-- Does the chunk trim the text in front of it? -/
def trimsLeft : Chunk → Bool
  | text _ _ => false
  | output m => m.trimLeft
  | tag _ m => m.trimLeft

/-- The chunk that a segment leaves, before trimming. -/
def ofSegment? : Segment → Option Chunk
  | .text cs position => some (text (String.ofList cs) position)
  | .output m => some (output m)
  | .tag name m => some (tag name m)
  | .rawOpen _ => none
  | .rawBody cs position => some (text (String.ofList cs) position)
  | .rawClose _ => none
  | .comment _ => none

/-- A text between two neighbours, trimmed on the sides that they ask for. -/
def trimmed (left right : Bool) (s : String) : String :=
  let cs := if left then trimStart s.toList else s.toList
  String.ofList (if right then trimEnd cs else cs)

/-- Trims the texts of a list of chunks; `left` tells whether the chunk in
    front asks for it. -/
def trimAll (left : Bool) : List Chunk → List Chunk
  | [] => []
  | text s position :: rest =>
    text (trimmed left (rest.head?.any trimsLeft) s) position :: trimAll false rest
  | chunk :: rest => chunk :: trimAll chunk.trimsRight rest

/-- The chunks of a source. -/
def scan (source : String) : Except Failure (List Chunk) :=
  (cut source).map fun segments => trimAll false (segments.filterMap ofSegment?)

end Chunk

end Stencil
