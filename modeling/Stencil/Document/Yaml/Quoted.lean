import Stencil.Document.Yaml.Cursor
import Stencil.Text.Hex

/-! # Quoted scalars

    Texts in single or double quotes.  In single quotes only a quote itself
    is escaped, by writing it twice; in double quotes a backslash escapes.
    Half of a pair of codes is no character, so it stands for nothing without
    the other half.  Line breaks fold in both. -/

namespace Stencil.Yaml

/-- The character that an escape of one letter stands for. -/
def escapes : List (Char × Char) :=
  [('0', '\x00'), ('a', '\x07'), ('b', '\x08'), ('t', '\t'), ('\t', '\t'), ('n', '\n'),
    ('v', '\x0b'), ('f', '\x0c'), ('r', '\r'), ('e', '\x1b'), (' ', ' '), ('\x22', '\x22'),
    ('\x5c', '\x5c'), ('/', '/'), ('N', '\x85'), ('_', '\xa0'), ('L', '\u2028'), ('P', '\u2029')]

/-- How many hexadecimal digits follow a letter of an escape. -/
def codeLengths : List (Char × Nat) :=
  [('x', 2), ('u', 4), ('U', 8)]

/-- A part of a scalar: the characters it stands for, and the place behind it. -/
abbrev Part := List Char × Cursor

/-- The blank lines at a place inside quotes, where no document may start or
    end. -/
def quotedBreaks (fuel : Nat) (p : Cursor) : Except DocumentFault Part :=
  let (breaks, p) := blankLines isSpace fuel p
  if p.column = 0 && atMarker p.rest then .error .malformed else .ok (breaks, p)

/-- The spaces and line breaks at a place inside quotes. -/
def quotedGap (fuel : Nat) (p : Cursor) : Except DocumentFault Part :=
  let spaces := p.rest.takeWhile isSpace
  let p := p.advance spaces.length
  match p.lineBreak? with
  | some (b, p) => (quotedBreaks fuel p).map fun (breaks, p) => (folded b breaks, p)
  | none => .ok (spaces, p)

/-- The code that an escape tells, and its length, where `cs` starts with its
    letter. -/
def escapedCode? (cs : List Char) : Option (Nat × Nat) := do
  let count ← codeLengths.lookup (← cs.head?)
  return (← Text.hexCode? count cs.tail, count + 1)

/-- The character of two escapes for the halves of a pair, and the length of
    both, where `cs` starts with the letter of the first. -/
def escapedPair? (cs : List Char) : Option (Char × Nat) := do
  let (high, length) ← escapedCode? cs
  let behind := cs.drop length
  if behind.head? = some '\x5c' then
    let (low, more) ← escapedCode? behind.tail
    return (← Text.charOfPair? high low, length + 1 + more)
  else none

/-- What a backslash at a place stands for, which is in front of `p`. -/
def escape (fuel : Nat) (p : Cursor) : Except DocumentFault Part :=
  match p.rest with
  | [] => .error .malformed
  | c :: _ =>
    match escapes.lookup c, codeLengths.lookup c with
    | some d, _ => .ok ([d], p.next)
    | none, some _ =>
      match escapedPair? p.rest, escapedCode? p.rest with
      | some (d, length), _ => .ok ([d], p.advance length)
      | none, none => .error .malformed
      | none, some (code, length) =>
        match Text.charOfCode? code with
        | some d => .ok ([d], p.advance length)
        | none =>
          if code < 0x110000 then .error .malformed
          else if code < Nat.pow 2 31 then .error .noCharacter
          else .error .codeTooLarge
    | none, none =>
      match p.lineBreak? with
      | some (_, p) => quotedBreaks fuel p
      | none => .error .malformed

/-- The part of a scalar at a place; none at the quote that ends it. -/
def quotedPart (double : Bool) (fuel : Nat) (p : Cursor) : Except DocumentFault (Option Part) :=
  match p.rest with
  | [] => .error .malformed
  | c :: cs =>
    if isSpace c || isBreak c then (quotedGap fuel p).map some
    else if double && c = '\x5c' then (escape fuel p.next).map some
    else if double && c = '\x22' then .ok none
    else if !double && c = '\x27' then
      if cs.head? = some '\x27' then .ok (some (['\x27'], p.advance 2)) else .ok none
    else .ok (some ([c], p.next))

/-- The characters of a scalar up to its closing quote, and the place behind
    that. -/
def quotedText (double : Bool) : Nat → Cursor → Except DocumentFault Part
  | 0, _ => .error .malformed
  | fuel + 1, p => do
    match ← quotedPart double fuel p with
    | none => return ([], p.next)
    | some (chars, p) => do
      let (more, p) ← quotedText double fuel p
      return (chars ++ more, p)

end Stencil.Yaml
