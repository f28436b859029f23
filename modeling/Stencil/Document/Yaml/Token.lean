import Stencil.Document.Yaml.Block
import Stencil.Document.Yaml.Plain
import Stencil.Document.Yaml.Quoted

/-! # YAML tokens

    The scalars and the structure of a text.  Indentation shows as tokens
    that start and end block collections.  A colon makes a key of what
    stands in front of it in the same line, so the place of everything that
    may be a key is remembered until it is too far away. -/

namespace Stencil.Yaml

/-! ## Section 1: Tokens -/

/-- The tokens.  Both kinds of flow collections, and block collections, have
    tokens at either end. -/
inductive Token where
  | documentStart
  | documentEnd
  | blockSequence
  | blockMapping
  | blockEnd
  | flowSequence
  | flowSequenceEnd
  | flowMapping
  | flowMappingEnd
  /-- The dash of an item in a block sequence. -/
  | item
  /-- The comma in a flow collection. -/
  | comma
  /-- In front of a key, whether a question mark stands there or not. -/
  | key
  /-- The colon in front of a value. -/
  | value
  /-- A scalar, and whether it is plain. -/
  | scalar (text : String) (plain : Bool)
  /-- The tag that makes bytes of a scalar. -/
  | binary
  /-- The place from which on the text cannot be cut, and the cause. -/
  | broken (cause : DocumentFault)
deriving DecidableEq

/-! ## Section 2: Layout -/

/-- Something that becomes a key if a colon follows. -/
structure Candidate where
  /-- How many flow collections are around it. -/
  level : Nat
  /-- The number of tokens in front. -/
  position : Nat
  line : Nat
  column : Nat
  index : Nat
  /-- Must it be a key?  So it is at the column of the keys of a mapping. -/
  required : Bool

/-- How far a text has been cut into tokens. -/
structure Layout where
  cursor : Cursor
  tokens : Array Token
  /-- The columns of the open block collections, the innermost first. -/
  columns : List Nat
  /-- The number of open flow collections. -/
  level : Nat
  /-- May a key start at the next token? -/
  keyAllowed : Bool
  candidates : List Candidate

namespace Layout

/-- The start of a text. -/
def start (text : String) : Layout :=
  ⟨.start text, #[], [], 0, true, []⟩

/-- The least column of a text inside the innermost block collection. -/
def margin (s : Layout) : Nat :=
  match s.columns with
  | [] => 0
  | column :: _ => column + 1

/-- Appends a token. -/
def emit (t : Token) (s : Layout) : Layout :=
  { s with tokens := s.tokens.push t }

/-- Appends a token of `n` characters. -/
def emitSigns (t : Token) (n : Nat) (s : Layout) : Layout :=
  { s with tokens := s.tokens.push t, cursor := s.cursor.advance n }

/-- Ends the block collections that satisfy `q`, from the innermost on. -/
def closeWhile (q : Nat → Bool) (s : Layout) : Layout :=
  if s.level ≠ 0 then s
  else
    let closed := (s.columns.takeWhile q).length
    { s with
      columns := s.columns.drop closed
      tokens := s.tokens ++ Array.replicate closed .blockEnd }

/-- Starts a block collection at a column in front of the token number
    `position`, unless one at this column, or further in, is open. -/
def openAt (column position : Nat) (t : Token) (s : Layout) : Layout :=
  if s.columns.head?.all (· < column) then
    { s with
      columns := column :: s.columns
      tokens := s.tokens.insertIdxIfInBounds position t }
  else s

/-- Starts a block collection at the cursor, where a key or an item may
    start; in a flow collection there is nothing to start. -/
def openHere (t : Token) (s : Layout) : Except DocumentFault Layout :=
  if s.level ≠ 0 then .ok s
  else if s.keyAllowed then .ok (s.openAt s.cursor.column s.tokens.size t)
  else .error .malformed

/-! ## Section 3: Candidates -/

/-- The farthest that a key can be from its colon. -/
def maxKeyLength : Nat := 1024

/-- Is a candidate too far away to become a key? -/
def isStale (s : Layout) (k : Candidate) : Bool :=
  k.line ≠ s.cursor.line || maxKeyLength < s.cursor.index - k.index

/-- Gives up the candidates that satisfy `q`; none of them may be required. -/
def giveUp (q : Candidate → Bool) (s : Layout) : Except DocumentFault Layout :=
  if s.candidates.any fun k => q k && k.required then .error .malformed
  else .ok { s with candidates := s.candidates.filter fun k => !q k }

/-- Gives up the candidate at the present level. -/
def giveUpHere (s : Layout) : Except DocumentFault Layout :=
  s.giveUp fun k => k.level = s.level

/-- Takes the next token as a candidate, if a key may start here. -/
def propose (s : Layout) : Except DocumentFault Layout :=
  if s.keyAllowed then do
    let required := s.level = 0 && s.columns.head? = some s.cursor.column
    let k : Candidate :=
      ⟨s.level, s.tokens.size, s.cursor.line, s.cursor.column, s.cursor.index, required⟩
    let s ← s.giveUpHere
    return { s with candidates := k :: s.candidates }
  else .ok s

/-! ## Section 4: Single tokens -/

/-- A mark that starts or ends a document. -/
def marker (t : Token) (s : Layout) : Except DocumentFault Layout := do
  let s ← (s.closeWhile fun _ => true).giveUpHere
  return { s.emitSigns t 3 with keyAllowed := false }

/-- The start of a flow collection. -/
def openFlow (t : Token) (s : Layout) : Except DocumentFault Layout := do
  let s ← s.propose
  return { s.emitSigns t 1 with level := s.level + 1, keyAllowed := true }

/-- The end of a flow collection. -/
def closeFlow (t : Token) (s : Layout) : Except DocumentFault Layout := do
  if s.level = 0 then throw .malformed
  let s ← s.giveUpHere
  return { s.emitSigns t 1 with level := s.level - 1, keyAllowed := false }

/-- A comma. -/
def comma (s : Layout) : Except DocumentFault Layout := do
  let s ← s.giveUpHere
  return { s.emitSigns .comma 1 with keyAllowed := true }

/-- The dash of an item. -/
def item (s : Layout) : Except DocumentFault Layout := do
  let s ← (← s.openHere .blockSequence).giveUpHere
  return { s.emitSigns .item 1 with keyAllowed := true }

/-- The question mark of a key. -/
def explicitKey (s : Layout) : Except DocumentFault Layout := do
  let s ← (← s.openHere .blockMapping).giveUpHere
  return { s.emitSigns .key 1 with keyAllowed := s.level = 0 }

/-- A colon: the candidate at the present level becomes a key.  If there is
    none, the key is the one of a question mark, or empty. -/
def colon (s : Layout) : Except DocumentFault Layout := do
  match s.candidates.find? fun k => k.level = s.level with
  | some k =>
    let s := { s with
      candidates := s.candidates.filter fun l => l.level ≠ s.level
      tokens := s.tokens.insertIdxIfInBounds k.position .key }
    let s := if s.level = 0 then s.openAt k.column k.position .blockMapping else s
    return { s.emitSigns .value 1 with keyAllowed := false }
  | none =>
    let s ← s.openHere .blockMapping
    return { s.emitSigns .value 1 with keyAllowed := s.level = 0 }

/-- A block scalar. -/
def block (fold : Bool) (fuel : Nat) (s : Layout) : Except DocumentFault Layout := do
  let s ← s.giveUpHere
  let (chars, behind) ← blockText fold s.margin fuel s.cursor.next
  return { s.emit (.scalar (String.ofList chars) false) with cursor := behind, keyAllowed := true }

/-- A quoted scalar. -/
def quoted (double : Bool) (fuel : Nat) (s : Layout) : Except DocumentFault Layout := do
  let s ← s.propose
  let (chars, behind) ← quotedText double fuel s.cursor.next
  return { s.emit (.scalar (String.ofList chars) false) with cursor := behind, keyAllowed := false }

/-- A plain scalar.  A key may start behind it if it ends a line. -/
def plain (fuel : Nat) (s : Layout) : Except DocumentFault Layout := do
  let s ← s.propose
  let t := plainText (s.level ≠ 0) s.margin fuel s.cursor
  return { s.emit (.scalar (String.ofList t.chars) true) with
    cursor := t.behind, keyAllowed := t.broken }

/-- The tag for bytes. -/
def binaryTag : String := "!!binary"

/-- A tag, which ends at a space or at the end of its line. -/
def tag (s : Layout) : Except DocumentFault Layout := do
  let behind := s.cursor.rest.drop binaryTag.length
  if binaryTag.toList.isPrefixOf s.cursor.rest && (atLineEnd behind || behind.head? = some ' ')
  then
    let s ← s.propose
    return { s.emitSigns .binary binaryTag.length with keyAllowed := false }
  else throw .malformed

/-! ## Section 5: The whole text -/

/-- The place behind spaces, comments and line breaks, and whether there is
    a line break among them. -/
def skipGap : Nat → Cursor → Bool × Cursor
  | 0, p => (false, p)
  | fuel + 1, p =>
    let p := p.skipWhile (· = ' ')
    let p := if p.rest.head? = some '#' then p.skipWhile fun c => !isBreak c else p
    match p.lineBreak? with
    | some (_, p) => (true, (skipGap fuel p).2)
    | none => (false, p)

/-- Moves to the next token. -/
def toToken (fuel : Nat) (s : Layout) : Except DocumentFault Layout := do
  let (broken, p) := skipGap fuel s.cursor
  let s := { s with cursor := p, keyAllowed := s.keyAllowed || (broken && s.level = 0) }
  let s ← s.giveUp s.isStale
  return s.closeWhile fun column => s.cursor.column < column

/-- The token that starts with `c`, with `cs` behind it. -/
def token (fuel : Nat) (c : Char) (cs : List Char) (s : Layout) : Except DocumentFault Layout :=
  let inFlow := s.level ≠ 0
  if s.cursor.column = 0 && atMarker (c :: cs) then
    s.marker (if c = '-' then .documentStart else .documentEnd)
  else if c = '[' then s.openFlow .flowSequence
  else if c = '\x7b' then s.openFlow .flowMapping
  else if c = ']' then s.closeFlow .flowSequenceEnd
  else if c = '\x7d' then s.closeFlow .flowMappingEnd
  else if c = ',' then s.comma
  else if c = '-' && atGap cs then s.item
  else if c = '?' && (inFlow || atGap cs) then s.explicitKey
  else if c = ':' && (inFlow || atGap cs) then s.colon
  else if c = '!' then s.tag
  else if c = '|' && !inFlow then s.block false fuel
  else if c = '>' && !inFlow then s.block true fuel
  else if c = '\x27' then s.quoted false fuel
  else if c = '\x22' then s.quoted true fuel
  else if startsPlain inFlow c cs then s.plain fuel
  else .error .malformed

/-- The layout behind the next token, and whether the text ends there.  The
    end of a text ends the block collections that are open. -/
def further (fuel : Nat) (s : Layout) : Except DocumentFault (Layout × Bool) := do
  let s ← s.toToken fuel
  match s.cursor.rest with
  | [] => return (← (s.closeWhile fun _ => true).giveUpHere, true)
  | c :: cs => return (← s.token fuel c cs, false)

/-- The tokens of a text that cannot be cut any further.  Those in front of
    the first one that may still become a key are settled, and the others
    can no longer be told. -/
def breakOff (cause : DocumentFault) (s : Layout) : List Token :=
  let unsettled := s.candidates.filter fun k => !s.isStale k
  let settled := (unsettled.map Candidate.position).foldl min s.tokens.size
  s.tokens.toList.take settled ++ [.broken cause]

/-- The tokens from a place on, with those in front. -/
def tokensFrom : Nat → Layout → List Token
  | 0, s => s.breakOff .malformed
  | fuel + 1, s =>
    match s.further (fuel + 1) with
    | .ok (s, true) => s.tokens.toList
    | .ok (s, false) => tokensFrom fuel s
    | .error cause => s.breakOff cause

end Layout

/-- The tokens of a text. -/
def tokens (text : String) : List Token :=
  if text.toList.all isAllowed then Layout.tokensFrom (text.length + 1) (.start text)
  else [.broken .malformed]

end Stencil.Yaml
