import Stencil.Document.Fault
import Stencil.Text.Hex

/-! # JSON

    Reading of one JSON value, which may also be one of the constants
    `NaN`, `Infinity` and `-Infinity`.  Texts hold characters only, so an
    escape for half of a pair without the other half is malformed.  Numbers
    without fraction and exponent are integers of any size up to the limit of
    numerals.  Of two entries with one key, the later value counts.  Every
    function returns what it read together with the characters behind it. -/

namespace Stencil.Json

/-! ## Section 1: Characters -/

/-- Drops spaces, tabs and line breaks. -/
def skip (cs : List Char) : List Char :=
  cs.dropWhile fun c => c = ' ' || c = '\t' || c = '\n' || c = '\r'

/-- The rest after a fixed text. -/
def after? (text : String) (cs : List Char) : Option (List Char) :=
  if text.toList.isPrefixOf cs then some (cs.drop text.length) else none

/-! ## Section 2: Strings -/

/-- The character that a letter after a backslash stands for. -/
def escaped? (c : Char) : Option Char :=
  if c = '\x22' ∨ c = '\x5c' ∨ c = '/' then some c
  else if c = 'b' then some '\x08'
  else if c = 'f' then some '\x0c'
  else if c = 'n' then some '\n'
  else if c = 'r' then some '\r'
  else if c = 't' then some '\t'
  else none

/-- The character that an escape by code stands for, and how many characters
    the escape has after its `u`.  Two escapes may form a pair.  A half alone
    stands for nothing, as no text holds it. -/
def codedChar? (cs : List Char) : Option (Char × Nat) := do
  let high ← Text.hexCode? 4 cs
  let paired := do
    let rest ← after? "\\u" (cs.drop 4)
    let low ← Text.hexCode? 4 rest
    return (← Text.charOfPair? high low, 10)
  match paired with
  | some pair => return pair
  | none => return (← Text.charOfCode? high, 4)

/-- The characters of a string up to its closing quote.  `skip` characters
    belong to the last escape. -/
def stringFrom : Nat → List Char → Except DocumentFault (List Char × List Char)
  | _, [] => .error .malformed
  | skip + 1, _ :: cs => stringFrom skip cs
  | 0, c :: cs =>
    if c = '\x22' then .ok ([], cs)
    else if c.toNat < 0x20 then .error .malformed
    else if c = '\x5c' then
      match cs with
      | [] => .error .malformed
      | 'u' :: digits =>
        match codedChar? digits with
        | none => .error .malformed
        | some (d, n) => (stringFrom (n + 1) cs).map fun (ds, rest) => (d :: ds, rest)
      | e :: _ =>
        match escaped? e with
        | none => .error .malformed
        | some d => (stringFrom 1 cs).map fun (ds, rest) => (d :: ds, rest)
    else (stringFrom 0 cs).map fun (ds, rest) => (c :: ds, rest)

/-! ## Section 3: Numbers -/

/-- The length of a fraction or exponent that starts with one of `marks`,
    has a sign if `signed`, and at least one digit. -/
def tailLength (marks : List Char) (signed : Bool) (cs : List Char) : Nat :=
  match cs with
  | [] => 0
  | m :: rest =>
    if marks.contains m then
      let sign := if signed && (rest.head? = some '+' || rest.head? = some '-') then 1 else 0
      let digits := ((rest.drop sign).takeWhile Char.isDigit).length
      if digits = 0 then 0 else 1 + sign + digits
    else 0

/-- A number at the head. -/
def number (cs : List Char) : Except DocumentFault (Native × List Char) :=
  let sign := if cs.head? = some '-' then 1 else 0
  let digits := (cs.drop sign).takeWhile Char.isDigit
  match digits with
  | [] => .error .malformed
  | d :: _ =>
    let whole := sign + (if d = '0' then 1 else digits.length)
    let fraction := tailLength ['.'] false (cs.drop whole)
    let exponent := tailLength ['e', 'E'] true (cs.drop (whole + fraction))
    let length := whole + fraction + exponent
    let text := String.ofList (cs.take length)
    if fraction + exponent = 0 then
      match Numeral.readInt text with
      | .ok n => .ok (.int n, cs.drop length)
      | .error cause => .error (.numeral cause)
    else
      match Numeral.readDecimal text with
      | .ok d => .ok (.float d, cs.drop length)
      | .error cause => .error (.numeral cause)

/-! ## Section 4: Values -/

/-- The constants. -/
def constants : List (String × Native) :=
  [("null", .nil), ("true", .bool true), ("false", .bool false), ("NaN", .float (.nan .constant)),
    ("Infinity", .float (.infinite false)), ("-Infinity", .float (.infinite true))]

/-- A constant at the head. -/
def constant? (cs : List Char) : Option (Native × List Char) :=
  constants.findSome? fun (text, n) => (after? text cs).map (n, ·)

mutual

/-- A value at the head, of less than `fuel` nested parts. -/
def value : Nat → List Char → Except DocumentFault (Native × List Char)
  | 0, _ => .error .malformed
  | fuel + 1, cs =>
    match cs with
    | '\x22' :: rest => (stringFrom 0 rest).map fun (s, rest) => (.text (String.ofList s), rest)
    | '[' :: rest =>
      match skip rest with
      | ']' :: rest => .ok (.list [], rest)
      | rest => (items fuel rest).map fun (ns, rest) => (.list ns, rest)
    | '\x7b' :: rest =>
      match skip rest with
      | '\x7d' :: rest => .ok (.dict [], rest)
      | rest => (entries fuel rest).map fun (es, rest) => (.ofEntries es, rest)
    | cs =>
      match constant? cs with
      | some found => .ok found
      | none => number cs

/-- The items of a list, up to its end. -/
def items : Nat → List Char → Except DocumentFault (List Native × List Char)
  | 0, _ => .error .malformed
  | fuel + 1, cs => do
    let (n, rest) ← value fuel cs
    match skip rest with
    | ']' :: rest => return ([n], rest)
    | ',' :: rest => do
      let (ns, rest) ← items fuel (skip rest)
      return (n :: ns, rest)
    | _ => throw .malformed

/-- The entries of a dictionary, up to its end. -/
def entries : Nat → List Char → Except DocumentFault (List (Native × Native) × List Char)
  | 0, _ => .error .malformed
  | fuel + 1, cs =>
    match cs with
    | '\x22' :: rest => do
      let (key, rest) ← stringFrom 0 rest
      match skip rest with
      | ':' :: rest => do
        let (n, rest) ← value fuel (skip rest)
        let entry := (Native.text (String.ofList key), n)
        match skip rest with
        | '\x7d' :: rest => return ([entry], rest)
        | ',' :: rest => do
          let (es, rest) ← entries fuel (skip rest)
          return (entry :: es, rest)
        | _ => throw .malformed
      | _ => throw .malformed
    | _ => .error .malformed

end

/-- Reads the one value of a text. -/
def read (text : String) : Except DocumentFault Native := do
  let cs := skip text.toList
  let (n, rest) ← value (2 * cs.length + 2) cs
  if (skip rest).isEmpty then return n else throw .malformed

end Stencil.Json
