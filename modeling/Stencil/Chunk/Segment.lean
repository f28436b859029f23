import Stencil.Fault
import Stencil.Text.Blank
import Stencil.Text.Lines
import Stencil.Text.Word

/-! # Segments of a template

    A template's source is cut into segments that follow one another
    without gap or overlap: text, outputs, tags, the opening and closing
    tag of a raw block with its body between them, and comment blocks. -/

namespace Stencil

open Text

/-! ## Section 1: Marks -/

/-- An output or tag: its source, where it starts, its arguments without
    white space at the ends, and whether white space is trimmed on each
    side. -/
structure Mark where
  source : String
  position : Position
  args : String
  trimLeft : Bool
  trimRight : Bool
deriving DecidableEq

/-- The place of a mark. -/
def Mark.place (m : Mark) : Place :=
  ⟨.int m.position.line, .int m.position.col, m.source⟩

/-- A segment of a source. -/
inductive Segment where
  | text (cs : List Char) (position : Position)
  | output (m : Mark)
  | tag (name : String) (m : Mark)
  | rawOpen (m : Mark)
  | rawBody (cs : List Char) (position : Position)
  | rawClose (cs : List Char)
  | comment (cs : List Char)

/-! ## Section 2: Delimiters -/

/-- What stands between delimiters: a tag has a name, an output has none;
    the arguments as written, dashes, and the length of the whole. -/
structure Delimited where
  name : Option String
  args : List Char
  trimLeft : Bool
  trimRight : Bool
  length : Nat

/-- The characters before the first occurrence of `close`. -/
def beforeClose? (close : List Char) : List Char → Option (List Char)
  | [] => none
  | c :: cs =>
    if close.isPrefixOf (c :: cs) then some [] else (beforeClose? close cs).map (c :: ·)

/-- Splits off a dash at the head. -/
def splitDash : List Char → Bool × List Char
  | '-' :: cs => (true, cs)
  | cs => (false, cs)

/-- Splits off a dash at the end. -/
def splitLastDash (cs : List Char) : Bool × List Char :=
  if cs.getLast? = some '-' then (true, cs.dropLast) else (false, cs)

/-- The length of a dash that is there or not. -/
def dashLength (dash : Bool) : Nat :=
  if dash then 1 else 0

/-- The characters that open an output. -/
def outputOpen : List Char := ['\x7b', '\x7b']

/-- The characters that close an output. -/
def outputClose : List Char := ['\x7d', '\x7d']

/-- The characters that open a tag. -/
def tagOpen : List Char := ['\x7b', '%']

/-- The characters that close a tag. -/
def tagClose : List Char := ['%', '\x7d']

/-- The output whose delimiters open before `cs`.  It ends at the first
    closing delimiter. -/
def outputAfterOpen? (cs : List Char) : Option Delimited :=
  let (trimLeft, body) := splitDash cs
  (beforeClose? outputClose body).map fun inner =>
    let (trimRight, args) := splitLastDash inner
    ⟨none, args, trimLeft, trimRight, 4 + dashLength trimLeft + inner.length⟩

/-- The tag whose delimiters open before `cs`.  Its name is what word
    characters follow the white space. -/
def tagAfterOpen? (cs : List Char) : Option Delimited :=
  let (trimLeft, body) := splitDash cs
  let padding := body.takeWhile isBlank
  let named := body.dropWhile isBlank
  let name := named.takeWhile isWord
  (beforeClose? tagClose (named.dropWhile isWord)).map fun inner =>
    let (trimRight, args) := splitLastDash inner
    ⟨some (String.ofList name), args, trimLeft, trimRight,
      4 + dashLength trimLeft + padding.length + name.length + inner.length⟩

/-- The output or tag at the head of a source. -/
def delimitedAt? (cs : List Char) : Option Delimited :=
  if outputOpen.isPrefixOf cs then outputAfterOpen? (cs.drop 2)
  else if tagOpen.isPrefixOf cs then tagAfterOpen? (cs.drop 2)
  else none

/-! ## Section 3: Verbatim blocks -/

/-- The length of the end tag `word` at the head of a source: it has no
    arguments, and may have dashes. -/
def endTagLength? (word : String) (cs : List Char) : Option Nat :=
  if tagOpen.isPrefixOf cs then
    let (dash, body) := splitDash (cs.drop 2)
    let padding := body.takeWhile isBlank
    let named := body.dropWhile isBlank
    if word.toList.isPrefixOf named then
      let after := named.drop word.length
      let behind := after.takeWhile isBlank
      let (lastDash, close) := splitDash (after.dropWhile isBlank)
      if tagClose.isPrefixOf close then
        some (4 + dashLength dash + padding.length + word.length + behind.length +
          dashLength lastDash)
      else none
    else none
  else none

/-- The body before the first end tag `word`, and the length of that tag. -/
def beforeEndTag? (word : String) : List Char → Option (List Char × Nat)
  | [] => none
  | c :: cs =>
    match endTagLength? word (c :: cs) with
    | some n => some ([], n)
    | none => (beforeEndTag? word cs).map fun (body, n) => (c :: body, n)

/-! ## Section 4: Cutting -/

/-- A text segment, if there is any text. -/
def textSegment (cs : List Char) (position : Position) : List Segment :=
  if cs.isEmpty then [] else [.text cs position]

/-- The segments of the rest of a source, which starts at `position`.
    `piece` is the text since `begin`, reversed; `skip` characters of the
    rest belong to the segments in front. -/
def cutFrom (piece : List Char) (begin position : Position) :
    Nat → List Char → Except Failure (List Segment)
  | _, [] => .ok (textSegment piece.reverse begin)
  | skip + 1, c :: rest => cutFrom piece begin (position.step c) skip rest
  | 0, c :: rest =>
    match delimitedAt? (c :: rest) with
    | none => cutFrom (c :: piece) begin (position.step c) 0 rest
    | some d =>
      let source := (c :: rest).take d.length
      let m : Mark := ⟨String.ofList source, position, String.ofList (trim d.args),
        d.trimLeft, d.trimRight⟩
      let after := position.advance source
      let skip := d.length - 1
      let behind := rest.drop skip
      match d.name with
      | none => do
        let more ← cutFrom [] after (position.step c) skip rest
        return textSegment piece.reverse begin ++ .output m :: more
      | some "raw" =>
        match beforeEndTag? "endraw" behind with
        | none => .error ((Fault.malformed (.unterminated "raw")).failure.blame m.place)
        | some (body, n) => do
          let bodyEnd := after.advance body
          let close := (behind.drop body.length).take n
          let more ← cutFrom [] (bodyEnd.advance close) (position.step c)
            (skip + body.length + n) rest
          return textSegment piece.reverse begin ++ .rawOpen m ::
            (if body.isEmpty then [] else [.rawBody body after]) ++ .rawClose close :: more
      | some "comment" =>
        match beforeEndTag? "endcomment" behind with
        | none => .error ((Fault.malformed (.unterminated "comment")).failure.blame m.place)
        | some (body, n) => do
          let block := source ++ behind.take (body.length + n)
          let more ← cutFrom [] (position.advance block) (position.step c)
            (skip + body.length + n) rest
          return textSegment piece.reverse begin ++ .comment block :: more
      | some name => do
        let more ← cutFrom [] after (position.step c) skip rest
        return textSegment piece.reverse begin ++ .tag name m :: more

/-- The segments of a source. -/
def cut (source : String) : Except Failure (List Segment) :=
  cutFrom [] .start .start 0 source.toList

end Stencil
