/-! # Searching in text

    Occurrence, splitting and replacing.  Occurrences are taken from the
    left and do not overlap. -/

namespace Stencil.Text

/-- Does `needle` occur in `hay`? -/
def occurs (needle : List Char) : List Char → Bool
  | [] => needle.isEmpty
  | c :: cs => needle.isPrefixOf (c :: cs) || occurs needle cs

/-- The pieces of a text between the occurrences of a separator.  `skip`
    counts the characters that still belong to the last occurrence, and
    `piece` is the piece begun, reversed. -/
def splitFrom (sep : List Char) : Nat → List Char → List Char → List (List Char)
  | _, piece, [] => [piece.reverse]
  | skip + 1, piece, _ :: cs => splitFrom sep skip piece cs
  | 0, piece, c :: cs =>
    if sep.isPrefixOf (c :: cs) then
      piece.reverse :: splitFrom sep (sep.length - 1) [] cs
    else splitFrom sep 0 (c :: piece) cs

/-- The pieces of `cs` between the occurrences of the non-empty `sep`. -/
def split (sep cs : List Char) : List (List Char) :=
  splitFrom sep 0 [] cs

/-- Replaces the occurrences of the non-empty `old`; `skip` counts the
    characters that still belong to the last one. -/
def replaceFrom (old new : List Char) : Nat → List Char → List Char
  | _, [] => []
  | skip + 1, _ :: cs => replaceFrom old new skip cs
  | 0, c :: cs =>
    if old.isPrefixOf (c :: cs) then new ++ replaceFrom old new (old.length - 1) cs
    else c :: replaceFrom old new 0 cs

/-- Puts `new` before every character and at the end. -/
def interleave (new : List Char) : List Char → List Char
  | [] => new
  | c :: cs => new ++ c :: interleave new cs

/-- Replaces every occurrence of `old` by `new`.  The empty text occurs
    before every character and at the end. -/
def replace (old new cs : List Char) : List Char :=
  if old.isEmpty then interleave new cs else replaceFrom old new 0 cs

/-- The pieces one after another, with `sep` between neighbours. -/
def join (sep : List Char) : List (List Char) → List Char
  | [] => []
  | [piece] => piece
  | piece :: pieces => piece ++ sep ++ join sep pieces

end Stencil.Text
