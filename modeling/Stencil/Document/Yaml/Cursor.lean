import Stencil.Document.Fault

/-! # Places in a YAML text

    A cursor is what is left of a text, with the line, the column and the
    number of characters in front.  Layout depends on columns, so every
    reader moves a cursor. -/

namespace Stencil.Yaml

/-! ## Section 1: Characters -/

/-- The characters that a text may hold: no control characters but tabs and
    line breaks, and no noncharacters at the end of the basic plane. -/
def isAllowed (c : Char) : Bool :=
  c = '\t' || c = '\n' || c = '\r' || (0x20 ≤ c.toNat && c.toNat ≤ 0x7E) || c.toNat = 0x85 ||
  (0xA0 ≤ c.toNat && c.toNat ≤ 0xD7FF) || (0xE000 ≤ c.toNat && c.toNat ≤ 0xFFFD) ||
  0x10000 ≤ c.toNat

/-- The characters that end a line. -/
def isBreak (c : Char) : Bool :=
  c = '\n' || c = '\r' || c = '\x85' || c = '\u2028' || c = '\u2029'

/-- Spaces and tabs. -/
def isSpace (c : Char) : Bool :=
  c = ' ' || c = '\t'

/-- Does the line end here? -/
def atLineEnd : List Char → Bool
  | [] => true
  | c :: _ => isBreak c

/-- Does the line end here, or is there a space or tab? -/
def atGap : List Char → Bool
  | [] => true
  | c :: _ => isSpace c || isBreak c

/-- Is there a mark that starts or ends a document? -/
def atMarker (cs : List Char) : Bool :=
  (cs.take 3 = ['-', '-', '-'] || cs.take 3 = ['.', '.', '.']) && atGap (cs.drop 3)

/-! ## Section 2: Cursors -/

/-- The mark of a byte order, which takes no column. -/
def byteOrderMark : Char := '\ufeff'

/-- A place in a text. -/
structure Cursor where
  /-- What is left of the text. -/
  rest : List Char
  /-- The number of line breaks in front. -/
  line : Nat
  /-- The number of columns in front in the same line. -/
  column : Nat
  /-- The number of characters in front. -/
  index : Nat

namespace Cursor

/-- The start of a text.  A byte order mark is not part of it. -/
def start (text : String) : Cursor :=
  match text.toList with
  | c :: cs => if c = byteOrderMark then ⟨cs, 0, 0, 1⟩ else ⟨c :: cs, 0, 0, 0⟩
  | [] => ⟨[], 0, 0, 0⟩

/-- One character further.  A carriage return in front of a line feed does
    not end the line yet. -/
def next (p : Cursor) : Cursor :=
  match p.rest with
  | [] => p
  | c :: cs =>
    if isBreak c && !(c = '\r' && cs.head? = some '\n') then ⟨cs, p.line + 1, 0, p.index + 1⟩
    else if c = byteOrderMark then ⟨cs, p.line, p.column, p.index + 1⟩
    else ⟨cs, p.line, p.column + 1, p.index + 1⟩

/-- Some characters further. -/
def advance : Nat → Cursor → Cursor
  | 0, p => p
  | n + 1, p => advance n p.next

/-- Behind the characters that satisfy `q`. -/
def skipWhile (q : Char → Bool) (p : Cursor) : Cursor :=
  p.advance (p.rest.takeWhile q).length

/-- Is this the end of the text? -/
def atEnd (p : Cursor) : Bool :=
  p.rest.isEmpty

/-- The line break at a place, and the place behind it.  All breaks count as
    line feeds, but for the two separators. -/
def lineBreak? (p : Cursor) : Option (Char × Cursor) :=
  match p.rest with
  | '\r' :: '\n' :: _ => some ('\n', p.advance 2)
  | c :: _ =>
    if c = '\u2028' || c = '\u2029' then some (c, p.next)
    else if isBreak c then some ('\n', p.next)
    else none
  | [] => none

end Cursor

/-! ## Section 3: Blank lines and folding -/

/-- The breaks of the blank lines at a place, and the place behind them and
    the blanks that follow.  A document marker ends them.  Here and in all
    readers, `fuel` is at least the number of characters that are left. -/
def blankLines (blank : Char → Bool) : Nat → Cursor → List Char × Cursor
  | 0, p => ([], p)
  | fuel + 1, p =>
    if p.column = 0 && atMarker p.rest then ([], p)
    else if p.rest.head?.any blank then blankLines blank fuel p.next
    else
      match p.lineBreak? with
      | some (b, p) =>
        let (breaks, p) := blankLines blank fuel p
        (b :: breaks, p)
      | none => ([], p)

/-- What a line break between two words stands for, with the breaks of the
    blank lines behind it: a single line feed is a space, and in front of
    blank lines it is nothing. -/
def folded (first : Char) (blank : List Char) : List Char :=
  if first ≠ '\n' then first :: blank
  else if blank.isEmpty then [' ']
  else blank

end Stencil.Yaml
