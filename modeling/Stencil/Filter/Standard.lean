import Stencil.Filter.Basic
import Stencil.Native.Print
import Stencil.Native.Sort
import Stencil.Text.Casing

/-! # The standard filters

    Text filters work on the printed text of any datum.  Sequence filters
    see nil as no item, a text as one item, and a dictionary as its
    entries.  Arithmetic takes numbers and texts of numbers, and nil as
    zero. -/

namespace Stencil.Filter

open Native Text

/-! ## Section 1: Operands -/

/-- The characters of the printed text of a datum. -/
def chars (n : Native) : Except OperandFault (List Char) :=
  n.print.map String.toList

/-- Characters as a datum. -/
def ofChars (cs : List Char) : Native :=
  .text (String.ofList cs)

/-- The items of a datum. -/
def items : Native → Except OperandFault (List Native)
  | .nil => .ok []
  | .text s => .ok [.text s]
  | .list ns => .ok ns
  | .bytes bs => .ok ((octets bs).map .int)
  | .dict entries => .ok (entries.map fun (k, v) => .list [k, v])
  | .range r =>
    if r.length ≤ countLimit then .ok (r.members.map .int) else .error .lengthTooLarge
  | n => .error (.notIterable n.typeName)

/-- The length of a datum that has one. -/
def length? : Native → Option (Except OperandFault Nat)
  | .text s => some (.ok s.length)
  | .list ns => some (.ok ns.length)
  | .bytes bs => some (.ok bs.length)
  | .dict entries => some (.ok entries.length)
  | .range r => some (if r.length ≤ countLimit then .ok r.length else .error .lengthTooLarge)
  | _ => none

/-- The number that a datum stands for in arithmetic. -/
def number : Native → Except OperandFault Number
  | .int n => .ok (.int n)
  | .float d => .ok (.float d)
  | .nil => .ok (.int 0)
  | .text s =>
    let body := trimString s
    if '.' ∈ body.toList then
      ((Numeral.readDecimal body).map .float).mapError .numeral
    else ((Numeral.readInt body).map .int).mapError .numeral
  | .bool b => .error (.notNumber (if b then "True" else "False"))
  | n => .error (.notNumber n.plainTypeName)

/-- The nearest number to an integer, which must not have overflowed. -/
def inRange : Double → Except OperandFault Double
  | .infinite _ => .error .integerTooLarge
  | d => .ok d

/-- A number as a floating point number. -/
def toDouble : Number → Except OperandFault Double
  | .float d => .ok d
  | .int n => inRange (.ofInt n)

/-- Exact arithmetic on integers, floating point arithmetic otherwise. -/
def arithmetic (onInts : Int → Int → Int) (onDoubles : Double → Double → Double)
    (a b : Native) : Except OperandFault Native := do
  match ← number a, ← number b with
  | .int m, .int n => return .int (onInts m n)
  | m, n =>
    let x ← toDouble m
    let y ← toDouble n
    return .float (onDoubles x y)

/-! ## Section 2: Text -/

/-- Upper case. -/
def upcase (s : Native) : Except OperandFault Native := do
  return ofChars (upper (← chars s))

/-- Lower case. -/
def downcase (s : Native) : Except OperandFault Native := do
  return ofChars (lower (← chars s))

/-- First character in title case, the rest in lower case. -/
def capitalize (s : Native) : Except OperandFault Native := do
  return ofChars (Text.capitalize (← chars s))

/-- Without white space at the ends. -/
def strip (s : Native) : Except OperandFault Native := do
  return ofChars (trim (← chars s))

/-- With a text behind. -/
def append (s suffix : Native) : Except OperandFault Native := do
  return ofChars ((← chars s) ++ (← chars suffix))

/-- With a text in front. -/
def prepend (s front : Native) : Except OperandFault Native := do
  return ofChars ((← chars front) ++ (← chars s))

/-- Every occurrence of one text replaced by another. -/
def replace (s old new : Native) : Except OperandFault Native := do
  let cs ← chars s
  return ofChars (Text.replace (← chars old) (← chars new) cs)

/-- The pieces between the occurrences of a separator.  The empty text has
    no pieces. -/
def split (s sep : Native) : Except OperandFault Native := do
  match ← chars s with
  | [] => return .list []
  | cs =>
    match ← chars sep with
    | [] => throw .emptySeparator
    | separator => return .list ((Text.split separator cs).map ofChars)

/-! ## Section 3: Sequences -/

/-- The number of members; zero for a datum without any.  Bytes have a
    length, but are of none of the types whose members are counted. -/
def size : Native → Except OperandFault Native
  | .bytes _ => .ok (.int 0)
  | x =>
    match length? x with
    | some n => n.map fun n => .int n
    | none => .ok (.int 0)

/-- The first item. -/
def first (x : Native) : Except OperandFault Native := do
  return (← items x).head?.getD .nil

/-- The last item. -/
def last (x : Native) : Except OperandFault Native := do
  return (← items x).getLast?.getD .nil

/-- The printed items with a separator between neighbours. -/
def join (x sep : Native) : Except OperandFault Native := do
  let separator ← chars sep
  let pieces ← (← items x).mapM chars
  return ofChars (Text.join separator pieces)

/-- The items in the opposite order. -/
def reverse (x : Native) : Except OperandFault Native := do
  return .list (← items x).reverse

/-- The items in ascending order. -/
def sort (x : Native) : Except OperandFault Native := do
  return .list (← Native.sort (← items x))

/-- The datum, or a fallback for nil, false and what is empty. -/
def default (x fallback : Native) : Except OperandFault Native :=
  match x with
  | .nil => .ok fallback
  | .bool false => .ok fallback
  | x =>
    match length? x with
    | some n => n.map fun n => if n = 0 then fallback else x
    | none => .ok x

/-! ## Section 4: Arithmetic -/

/-- The sum. -/
def plus : Native → Native → Except OperandFault Native :=
  arithmetic (· + ·) Double.add

/-- The difference. -/
def minus : Native → Native → Except OperandFault Native :=
  arithmetic (· - ·) Double.sub

/-- The product. -/
def times : Native → Native → Except OperandFault Native :=
  arithmetic (· * ·) Double.mul

/-! ## Section 5: The set -/

/-- The standard filters: name, names of the parameters, operation. -/
def definitions : List (String × List String × Operation) :=
  [("upcase", ["s"], .unary upcase),
    ("downcase", ["s"], .unary downcase),
    ("capitalize", ["s"], .unary capitalize),
    ("strip", ["s"], .unary strip),
    ("append", ["s", "suffix"], .binary append),
    ("prepend", ["s", "prefix"], .binary prepend),
    ("replace", ["s", "old", "new"], .ternary replace),
    ("split", ["s", "sep"], .binary split),
    ("size", ["x"], .unary size),
    ("first", ["x"], .unary first),
    ("last", ["x"], .unary last),
    ("join", ["x", "sep"], .binaryOr (.text " ") join),
    ("reverse", ["x"], .unary reverse),
    ("sort", ["x"], .unary sort),
    ("default", ["x", "fallback"], .binary default),
    ("plus", ["a", "b"], .binary plus),
    ("minus", ["a", "b"], .binary minus),
    ("times", ["a", "b"], .binary times)]

/-- The number of parameters that may be left out. -/
def optionalParameters : Operation → Nat
  | .binaryOr _ _ => 1
  | _ => 0

/-- The signature of a standard filter: a method of the set, which is itself
    a hidden operand. -/
def signature (name : String) (parameters : List String) (operation : Operation) : Signature :=
  ⟨"StandardFilters._" ++ name, 1, parameters, optionalParameters operation⟩

/-- The registry of the standard filters. -/
def standard (strict : Bool) : Registry :=
  ⟨strict, definitions.map fun (name, parameters, operation) =>
    (name, (signature name parameters operation).filter operation), .outside 0⟩

end Stencil.Filter
