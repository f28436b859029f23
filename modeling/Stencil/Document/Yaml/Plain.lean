import Stencil.Document.Yaml.Cursor

/-! # Plain scalars

    Texts without quotes.  They end at a colon or comment sign next to a
    gap, inside flow collections also at their punctuation, and they go on
    over lines that are indented more than the collection around them. -/

namespace Stencil.Yaml

/-- The punctuation of flow collections. -/
def isFlowMark (c : Char) : Bool :=
  c = ',' || c = '[' || c = ']' || c = '\x7b' || c = '\x7d'

/-- Does a word of a plain scalar end at `c`, with `cs` behind it? -/
def endsWord (inFlow : Bool) (c : Char) (cs : List Char) : Bool :=
  isSpace c || isBreak c || (c = ':' && (atGap cs || (inFlow && cs.head?.any isFlowMark))) ||
  (inFlow && (c = '?' || isFlowMark c))

/-- The length of the word at the head. -/
def wordLength (inFlow : Bool) : List Char → Nat
  | [] => 0
  | c :: cs => if endsWord inFlow c cs then 0 else wordLength inFlow cs + 1

/-- What stands between two words. -/
structure WordGap where
  /-- The characters that the gap stands for; none where no word can follow. -/
  chars : Option (List Char)
  /-- Has the gap a line break? -/
  broken : Bool
  /-- The place behind the gap. -/
  behind : Cursor

/-- The gap at a place. -/
def wordGap (fuel : Nat) (p : Cursor) : WordGap :=
  let spaces := p.rest.takeWhile (· = ' ')
  let behind := p.advance spaces.length
  match behind.lineBreak? with
  | some (b, behind) =>
    let (breaks, behind) := blankLines (· = ' ') fuel behind
    if behind.column = 0 && atMarker behind.rest then ⟨none, true, behind⟩
    else ⟨some (folded b breaks), true, behind⟩
  | none => ⟨if spaces.isEmpty then none else some spaces, false, behind⟩

/-- A plain scalar. -/
structure PlainText where
  chars : List Char
  /-- Is there a line break between its end and the place behind it? -/
  broken : Bool
  behind : Cursor

/-- The words at a place that belong to one scalar, where `lead` stands in
    front of the first.  Outside flow collections the words of further
    lines start at the column `margin` or behind. -/
def plainWords (inFlow : Bool) (margin : Nat) : Nat → List Char → Bool → Cursor → PlainText
  | 0, _, broken, p => ⟨[], broken, p⟩
  | fuel + 1, lead, broken, p =>
    let n := if p.rest.head? = some '#' then 0 else wordLength inFlow p.rest
    if n = 0 then ⟨[], broken, p⟩
    else
      let word := lead ++ p.rest.take n
      let gap := wordGap fuel (p.advance n)
      match gap.chars with
      | none => ⟨word, gap.broken, gap.behind⟩
      | some chars =>
        if gap.behind.rest.head? = some '#' || (!inFlow && gap.behind.column < margin) then
          ⟨word, gap.broken, gap.behind⟩
        else
          let more := plainWords inFlow margin fuel chars gap.broken gap.behind
          ⟨word ++ more.chars, more.broken, more.behind⟩

/-- The plain scalar at a place. -/
def plainText (inFlow : Bool) (margin fuel : Nat) (p : Cursor) : PlainText :=
  plainWords inFlow margin fuel [] false p

/-- Can a plain scalar start with `c`, with `cs` behind it? -/
def startsPlain (inFlow : Bool) (c : Char) (cs : List Char) : Bool :=
  !(isSpace c || isBreak c || isFlowMark c || "-?:#&*!|>'\x22%@\x60".toList.contains c) ||
  (!atGap cs && (c = '-' || (!inFlow && (c = '?' || c = ':'))))

end Stencil.Yaml
