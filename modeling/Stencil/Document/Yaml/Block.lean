import Stencil.Document.Yaml.Cursor

/-! # Block scalars

    Texts of whole lines, which start on the line below an indicator and
    end with their indentation.  Literal ones keep their line breaks, folded
    ones join lines that start with a word.  The header may tell the depth
    of the indentation, and what becomes of the last line breaks. -/

namespace Stencil.Yaml

/-! ## Section 1: The header -/

/-- What becomes of the line breaks at the end: all are dropped, the first
    one stays, or all stay. -/
inductive Chomping where
  | strip
  | clip
  | keep
deriving DecidableEq

/-- The sign of a way of chomping. -/
def chomping? : Char → Option Chomping
  | '-' => some .strip
  | '+' => some .keep
  | _ => none

/-- What a header tells. -/
structure Header where
  chomping : Chomping
  /-- The depth of the text's indentation, if given. -/
  depth : Option Nat

/-- A depth: one of the digits from one. -/
def depth? (c : Char) : Option Nat :=
  if c.isDigit && c ≠ '0' then some (c.toNat - 0x30) else none

/-- The header that some signs form: a chomping sign and a depth, in either
    order, and each at most once. -/
def header? : List Char → Option Header
  | [] => some ⟨.clip, none⟩
  | [c] =>
    match chomping? c, depth? c with
    | some ch, _ => some ⟨ch, none⟩
    | none, some d => some ⟨.clip, some d⟩
    | none, none => none
  | [c, d] =>
    match chomping? c, depth? d, depth? c, chomping? d with
    | some ch, some n, _, _ => some ⟨ch, some n⟩
    | _, _, some n, some ch => some ⟨ch, some n⟩
    | _, _, _, _ => none
  | _ => none

/-- The rest of a line that may hold a comment; it must end there. -/
def ignoredLine (p : Cursor) : Except DocumentFault Cursor :=
  let p := p.skipWhile (· = ' ')
  let p := if p.rest.head? = some '#' then p.skipWhile fun c => !isBreak c else p
  if atLineEnd p.rest then .ok ((p.lineBreak?.map (·.2)).getD p) else .error .malformed

/-! ## Section 2: Indentation -/

/-- The line breaks in front of the first word, the deepest column of the
    spaces between them, and the place of that word. -/
def leadingBreaks : Nat → Cursor → List Char × Nat × Cursor
  | 0, p => ([], 0, p)
  | fuel + 1, p =>
    if p.rest.head? = some ' ' then
      let (breaks, deepest, q) := leadingBreaks fuel p.next
      (breaks, max p.next.column deepest, q)
    else
      match p.lineBreak? with
      | some (b, p) =>
        let (breaks, deepest, q) := leadingBreaks fuel p
        (b :: breaks, deepest, q)
      | none => ([], 0, p)

/-- Behind the spaces that indent a line, up to the column `indent`. -/
def indented (indent : Nat) (p : Cursor) : Cursor :=
  p.advance (min (indent - p.column) (p.rest.takeWhile (· = ' ')).length)

/-- The breaks of the blank lines at a place, and the place behind them and
    the indentation that follows. -/
def blockBreaks (indent : Nat) : Nat → Cursor → List Char × Cursor
  | 0, p => ([], p)
  | fuel + 1, p =>
    let p := indented indent p
    match p.lineBreak? with
    | some (b, p) =>
      let (breaks, p) := blockBreaks indent fuel p
      (b :: breaks, p)
    | none => ([], p)

/-! ## Section 3: Lines -/

/-- Is there a line of the scalar at this place? -/
def atBlockLine (indent : Nat) (p : Cursor) : Bool :=
  p.column = indent && !p.atEnd

/-- Does the text at this place start with a word? -/
def startsWithWord (p : Cursor) : Bool :=
  !p.rest.head?.any isSpace

/-- The lines of a scalar. -/
structure BlockText where
  /-- The lines, joined. -/
  chars : List Char
  /-- The break of the last line, if there is one. -/
  lastBreak : List Char
  /-- The breaks of the blank lines behind the last line. -/
  trailing : List Char
  behind : Cursor

/-- What stands between a line and the next one: `break` ends the line, and
    `blank` are the blank lines between them. -/
def joint (fold : Bool) (wordLine : Bool) (lineBreak blank : List Char) (next : Cursor) :
    List Char :=
  if fold && wordLine && lineBreak = ['\n'] && startsWithWord next then
    if blank.isEmpty then [' '] else []
  else lineBreak

/-- The lines from a place on, with `blank` in front of the first. -/
def blockLines (fold : Bool) (indent : Nat) : Nat → List Char → Cursor → BlockText
  | 0, blank, p => ⟨[], [], blank, p⟩
  | fuel + 1, blank, p =>
    if atBlockLine indent p then
      let line := p.rest.takeWhile fun c => !isBreak c
      let q := p.advance line.length
      let (lineBreak, q) := match q.lineBreak? with
        | some (b, q) => ([b], q)
        | none => ([], q)
      let (breaks, q) := blockBreaks indent fuel q
      if atBlockLine indent q then
        let more := blockLines fold indent fuel breaks q
        { more with
          chars := blank ++ line ++ joint fold (startsWithWord p) lineBreak breaks q ++ more.chars }
      else ⟨blank ++ line, lineBreak, breaks, q⟩
    else ⟨[], [], blank, p⟩

/-- The characters that are left when the end is chomped. -/
def BlockText.chomp (t : BlockText) : Chomping → List Char
  | .strip => t.chars
  | .clip => t.chars ++ t.lastBreak
  | .keep => t.chars ++ t.lastBreak ++ t.trailing

/-- The scalar whose header is at a place, inside a collection whose text
    starts at the column `margin`, and the place behind it. -/
def blockText (fold : Bool) (margin fuel : Nat) (p : Cursor) :
    Except DocumentFault (List Char × Cursor) := do
  let signs := p.rest.takeWhile fun c => !(c = ' ' || isBreak c)
  let some header := header? signs | throw .malformed
  let p ← ignoredLine (p.advance signs.length)
  let least := max margin 1
  let (indent, breaks, p) := match header.depth with
    | some depth =>
      let indent := least + depth - 1
      let (breaks, p) := blockBreaks indent fuel p
      (indent, breaks, p)
    | none =>
      let (breaks, deepest, p) := leadingBreaks fuel p
      (max least deepest, breaks, p)
  let text := blockLines fold indent fuel breaks p
  return (text.chomp header.chomping, text.behind)

end Stencil.Yaml
