import Stencil.Fault
import Stencil.Text.Blank
import Stencil.Text.Word

/-! # Scanning

    Splits the source of an expression into tokens.  At each position the
    first rule that applies decides how many characters the next lexeme
    takes; white space separates lexemes and is dropped. -/

namespace Stencil

open Text

/-! ## Section 1: Lexeme lengths

    Each rule says how long a lexeme of its kind at the head of the source
    is, or zero when there is none. -/

/-- A character of a name after the first. -/
def isNamePart (c : Char) : Bool :=
  isWord c || c = '-'

/-- A name: a letter or underscore, name characters, and a question mark if
    one follows. -/
def nameLength : List Char → Nat
  | [] => 0
  | c :: cs =>
    if isNameStart c then
      let body := (cs.takeWhile isNamePart).length
      if (cs.drop body).head? = some '?' then body + 2 else body + 1
    else 0

/-- A name with a colon directly behind it. -/
def keywordLength (cs : List Char) : Nat :=
  let n := nameLength cs
  if 0 < n ∧ (cs.drop n).head? = some ':' then n + 1 else 0

/-- A name with a point directly before it. -/
def propertyLength : List Char → Nat
  | '.' :: cs => if nameLength cs = 0 then 0 else nameLength cs + 1
  | _ => 0

/-- A text in quotes of one sort, which it does not hold itself. -/
def textLength : List Char → Nat
  | [] => 0
  | q :: cs =>
    if q = singleQuote ∨ q = doubleQuote then
      let body := (cs.takeWhile (· ≠ q)).length
      if body < cs.length then body + 2 else 0
    else 0

/-- Digits with an optional minus sign. -/
def intLength : List Char → Nat
  | '-' :: cs =>
    let n := (cs.takeWhile isDigit).length
    if n = 0 then 0 else n + 1
  | cs => (cs.takeWhile isDigit).length

/-- Digits, a point and digits, with an optional minus sign. -/
def floatLength (cs : List Char) : Nat :=
  let n := intLength cs
  match cs.drop n with
  | '.' :: rest =>
    let fraction := (rest.takeWhile isDigit).length
    if n = 0 ∨ fraction = 0 then 0 else n + 1 + fraction
  | _ => 0

/-- The selector at the head of the source: a percent sign and its word,
    which no further word character extends. -/
def selectorAt? (cs : List Char) : Option Selector :=
  Selector.all.find? fun s =>
    let spelled := '%' :: s.word.toList
    spelled.isPrefixOf cs && !((cs.drop spelled.length).head?.any isWord)

/-- The operators made of punctuation, the longer ones first. -/
def punctuation : List (String × Operator) :=
  [("==", .eq), ("!=", .neq), ("<>", .neq), (">=", .ge), ("<=", .le),
    ("<", .lt), (">", .gt), (".", .dot), ("|", .pipe), (";", .semicolon), ("=", .equal),
    (":", .colon), (",", .comma), ("(", .lpar), (")", .rpar), ("[", .lsqb), ("]", .rsqb)]

/-- The punctuation at the head of the source. -/
def punctuationAt? (cs : List Char) : Option (String × Operator) :=
  punctuation.find? fun (spelling, _) => spelling.toList.isPrefixOf cs

/-! ## Section 2: The next lexeme -/

/-- Words that are operators or literals rather than names. -/
def reservedWord? (word : String) : Option Lexeme :=
  match word with
  | "and" => some (.operator .and)
  | "or" => some (.operator .or)
  | "contains" => some (.operator .contains)
  | "in" => some (.operator .isIn)
  | "true" => some (.literal (.bool true))
  | "false" => some (.literal (.bool false))
  | "nil" => some (.literal .nil)
  | "null" => some (.literal .nil)
  | _ => none

/-- What stands at the head of a source. -/
inductive Scanned where
  /-- White space of some length. -/
  | blank (length : Nat)
  /-- A lexeme of some length. -/
  | lexeme (l : Lexeme) (length : Nat)
  /-- A numeral that cannot be read. -/
  | unreadable (cause : Numeral.Fault)
  /-- No lexeme. -/
  | nothing

/-- A numeral as a lexeme. -/
def numeralLexeme (value : Except Numeral.Fault Literal) (length : Nat) : Scanned :=
  match value with
  | .ok v => .lexeme (.literal v) length
  | .error cause => .unreadable cause

/-- The text of the first `n` characters. -/
def slice (cs : List Char) (n : Nat) : String :=
  String.ofList (cs.take n)

/-- What stands at the head of `cs`: the first rule that applies decides. -/
@[irreducible] def scanHead (cs : List Char) : Scanned :=
  if 0 < (cs.takeWhile isBlank).length then .blank (cs.takeWhile isBlank).length
  else if let some s := selectorAt? cs then .lexeme (.selector s) (s.word.length + 1)
  else if 0 < textLength cs then
    .lexeme (.literal (.text (slice (cs.drop 1) (textLength cs - 2)))) (textLength cs)
  else if 0 < floatLength cs then
    numeralLexeme ((Numeral.readDecimal (slice cs (floatLength cs))).map .float) (floatLength cs)
  else if 0 < intLength cs then
    numeralLexeme ((Numeral.readInt (slice cs (intLength cs))).map .int) (intLength cs)
  else if ['.', '.'].isPrefixOf cs then .lexeme (.operator .dotdot) 2
  else if 0 < propertyLength cs then
    .lexeme (.property (slice (cs.drop 1) (propertyLength cs - 1))) (propertyLength cs)
  else if 0 < keywordLength cs then
    .lexeme (.keyword (slice cs (keywordLength cs - 1))) (keywordLength cs)
  else if 0 < nameLength cs then
    let word := slice cs (nameLength cs)
    .lexeme ((reservedWord? word).getD (.identifier word)) (nameLength cs)
  else match punctuationAt? cs with
    | some (spelling, o) => .lexeme (.operator o) spelling.length
    | none => .nothing

/-! ## Section 3: All tokens -/

/-- The tokens of the rest of `source`, which starts at `start`.  `skip`
    characters of it belong to what is in front. -/
def scanFrom (source : String) (start : Nat) : Nat → List Char → Except Fault (List Token)
  | _, [] => .ok []
  | skip + 1, _ :: rest => scanFrom source (start + 1) skip rest
  | 0, c :: rest =>
    match scanHead (c :: rest) with
    | .blank n => scanFrom source (start + 1) (n - 1) rest
    | .lexeme l n => do
      let tokens ← scanFrom source (start + 1) (n - 1) rest
      return ⟨l, start, slice (c :: rest) n⟩ :: tokens
    | .unreadable cause => .error (.operand (.numeral cause))
    | .nothing => .error (.malformed (.unexpectedCharacter c source))

/-- The tokens of a source. -/
def scan (source : String) : Except Fault (List Token) :=
  scanFrom source 0 0 source.toList

end Stencil
