import Stencil.Document.Fault
import Stencil.Text.Hex
import Stencil.Text.Search

/-! # Implicit types of plain scalars

    The form of a plain scalar decides whether it is nothing, a boolean, a
    number, a date, or a text.  Integers have a base or are counted in
    sixties; floating point numbers have a point; underscores may stand
    between digits and behind them. -/

namespace Stencil.Yaml

/-! ## Section 1: Words -/

/-- The words for nothing. -/
def nilWords : List String :=
  ["", "~", "null", "Null", "NULL"]

/-- The words for true. -/
def trueWords : List String :=
  ["yes", "Yes", "YES", "true", "True", "TRUE", "on", "On", "ON"]

/-- The words for false. -/
def falseWords : List String :=
  ["no", "No", "NO", "false", "False", "FALSE", "off", "Off", "OFF"]

/-- The words for infinity, behind a sign or none. -/
def infinityWords : List String :=
  [".inf", ".Inf", ".INF"]

/-- The words for what is no number. -/
def nanWords : List String :=
  [".nan", ".NaN", ".NAN"]

/-! ## Section 2: Digits -/

/-- The digits of a base, in value order; letters have both cases. -/
def isDigitOf (base : Nat) (c : Char) : Bool :=
  (Text.hexDigit? c).any (· < base)

/-- Is there at least one character, and are all digits or underscores? -/
def allDigitsOf (base : Nat) (cs : List Char) : Bool :=
  !cs.isEmpty && cs.all fun c => isDigitOf base c || c = '_'

/-- Drops the underscores. -/
def dropUnderscores (cs : List Char) : List Char :=
  cs.filter (· ≠ '_')

/-- The number that digits of a base denote. -/
def valueOf (base : Nat) (cs : List Char) : Nat :=
  cs.foldl (fun n c => base * n + (Text.hexDigit? c).getD 0) 0

/-- Does the text start with a digit from one, and go on with digits and
    underscores? -/
def isDecimal : List Char → Bool
  | [] => false
  | c :: cs => c.isDigit && c ≠ '0' && cs.all fun d => d.isDigit || d = '_'

/-- Is this the count of a minute or second: at most two digits, below sixty? -/
def isSixtieth : List Char → Bool
  | [c] => c.isDigit
  | [c, d] => '0' ≤ c && c ≤ '5' && d.isDigit
  | _ => false

/-- The parts of a text between its colons. -/
def colonParts (cs : List Char) : List (List Char) :=
  Text.split [':'] cs

/-! ## Section 3: Integers -/

/-- Reads decimal digits. -/
def readDigits (cs : List Char) : Except DocumentFault Int :=
  (Numeral.readInt (String.ofList (dropUnderscores cs))).mapError .numeral

/-- Reads the digits of a base that is marked in front of them. -/
def readBased (base : Nat) (cs : List Char) : Except DocumentFault Int :=
  match dropUnderscores cs with
  | [] => .error (.noDigits base)
  | digits => .ok (valueOf base digits)

/-- The reading of an unsigned integer; none if the text has another form. -/
def natural? (cs : List Char) : Option (Except DocumentFault Int) :=
  match cs with
  | ['0'] => some (.ok 0)
  | '0' :: 'b' :: digits => if allDigitsOf 2 digits then some (readBased 2 digits) else none
  | '0' :: 'x' :: digits => if allDigitsOf 16 digits then some (readBased 16 digits) else none
  | '0' :: digits => if allDigitsOf 8 digits then some (readBased 8 ('0' :: digits)) else none
  | cs =>
    if isDecimal cs then some (readDigits cs)
    else
      match colonParts cs with
      | first :: second :: more =>
        if isDecimal first && (second :: more).all isSixtieth then
          some ((first :: second :: more).foldlM
            (fun n part => (readDigits part).map fun m => 60 * n + m) 0)
        else none
      | _ => none

/-- The reading of an integer; none if the text has another form. -/
def integer? (cs : List Char) : Option (Except DocumentFault Native) :=
  let (negative, body) := Numeral.splitSign cs
  (natural? body).map fun read => read.map fun n => .int (if negative then -n else n)

/-! ## Section 4: Floating point numbers -/

/-- Is this an exponent, with its mark and its sign, or nothing? -/
def isExponent : List Char → Bool
  | [] => true
  | mark :: sign :: digits =>
    (mark = 'e' || mark = 'E') && (sign = '+' || sign = '-') && !digits.isEmpty &&
      digits.all Char.isDigit
  | _ => false

/-- Is this a number with a point?  Digits may only be missing in front of
    the point if there is no sign. -/
def isPointed (signed : Bool) (cs : List Char) : Bool :=
  let isInner (c : Char) : Bool := c.isDigit || c = '_'
  let whole := cs.takeWhile isInner
  match cs.dropWhile isInner with
  | '.' :: rest =>
    let fraction := rest.takeWhile isInner
    isExponent (rest.dropWhile isInner) &&
      (match whole with
        | c :: _ => c.isDigit
        | [] => !signed && fraction.head?.any Char.isDigit)
  | _ => false

/-- Is this a count of sixties with a point in its last part? -/
def isPointedSixties (cs : List Char) : Bool :=
  let whole := cs.takeWhile (· ≠ '.')
  match cs.dropWhile (· ≠ '.'), colonParts whole with
  | '.' :: fraction, first :: second :: more =>
    (fraction.all fun c => c.isDigit || c = '_') && first.head?.any Char.isDigit &&
      (first.all fun c => c.isDigit || c = '_') && (second :: more).all isSixtieth
  | _, _ => false

/-- The number with the given sign that a part with a point denotes. -/
def pointed (negative : Bool) (cs : List Char) : Double :=
  (Numeral.decimal? negative cs).getD (.nan .constant)

/-- Adds the parts, given from the last to the first, to `sum`.  The next
    one counts `unit` times, and each other one sixty times as much as the
    one in front of it. -/
def addSixties (sum : Double) (unit : Int) : List Double → Except DocumentFault Double
  | [] => .ok sum
  | part :: parts =>
    match Double.ofInt unit with
    | .infinite _ => .error .unitTooLarge
    | factor => addSixties (sum.add (part.mul factor)) (60 * unit) parts

/-- The reading of a floating point number; none if the text has another
    form. -/
def float? (cs : List Char) : Option (Except DocumentFault Native) :=
  let (negative, body) := Numeral.splitSign cs
  let signed := body.length < cs.length
  let digits := dropUnderscores body
  if isPointed signed body then some (.ok (.float (pointed negative digits)))
  else if isPointedSixties body then
    let sum := addSixties .zero 1 ((colonParts digits).map (pointed false)).reverse
    some (sum.map fun d => .float (if negative then d.neg else d))
  else if infinityWords.contains (String.ofList body) then some (.ok (.float (.infinite negative)))
  else if nanWords.contains (String.ofList cs) then some (.ok (.float (.nan .constant)))
  else none

/-! ## Section 5: Dates -/

/-- The reading of a date, with four, two and two digits; none if the text
    has another form. -/
def date? (cs : List Char) : Option (Except DocumentFault Native) :=
  let year := cs.take 4
  let month := (cs.drop 5).take 2
  let day := cs.drop 8
  if cs.length = 10 && (year ++ month ++ day).all Char.isDigit && cs[4]? = some '-' &&
      cs[7]? = some '-' then
    some ((Date.of (valueOf 10 year) (valueOf 10 month) (valueOf 10 day)).map
      Native.date |>.mapError .date)
  else none

/-! ## Section 6: Scalars -/

/-- The sign that stands for another value, and the one that merges
    mappings.  Neither is a value. -/
def reservedWords : List String :=
  ["=", "<<"]

/-- What a plain scalar denotes. -/
def ofPlain (text : String) : Except DocumentFault Native :=
  let cs := text.toList
  if nilWords.contains text then .ok .nil
  else if trueWords.contains text then .ok (.bool true)
  else if falseWords.contains text then .ok (.bool false)
  else if reservedWords.contains text then .error .malformed
  else
    (float? cs <|> integer? cs <|> date? cs).getD (.ok (.text text))

end Stencil.Yaml
