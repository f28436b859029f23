import Stencil.Text.Search
import Stencil.Value.Equality

/-! # Looking into values

    Truth, properties, indices, membership, iteration, and the integer that
    a value stands for. -/

namespace Stencil.Value

open Text

/-! ## Section 1: Truth -/

/-- Does the value count as true?  Nil, false, the empty string and empty
    collections do not. -/
def truth : Value → Except Fault Bool
  | .nil => .ok false
  | .boolean b => .ok b
  | .number _ => .ok true
  | .string s => .ok (s ≠ "")
  | .sequence items => .ok !items.isEmpty
  | .bytes bs => .ok !bs.isEmpty
  | .mapping entries => .ok !entries.isEmpty
  | .range r => r.count.map (· > 0)

/-! ## Section 2: Members -/

/-- A member that may be missing. -/
def wrapMember : Option Native → Except Fault Value
  | some n => n.wrap
  | none => .ok .nil

/-- A property of some items: their number, or one of their ends. -/
def itemsProperty (items : List Native) : String → Except Fault Value
  | "size" => .ok (ofInt items.length)
  | "first" => wrapMember items.head?
  | "last" => wrapMember items.getLast?
  | _ => .ok .nil

/-- A property of a value.  Strings have a size, sequences and ranges a size
    and ends, and mappings their entries, and a size if no entry hides it. -/
def property : Value → String → Except Fault Value
  | .string s, "size" => .ok (ofInt s.length)
  | .sequence items, name => itemsProperty items name
  | .bytes bs, name => itemsProperty ((Native.octets bs).map .int) name
  | .range r, "size" => r.count.map (ofInt ·)
  | .range r, "first" => r.count.map fun n => if n = 0 then .nil else ofInt (r.get 0)
  | .range r, "last" => r.count.map fun n => if n = 0 then .nil else ofInt (r.get (n - 1))
  | .mapping entries, name =>
    match Native.lookup? entries (.text name) with
    | some n => n.wrap
    | none => .ok (if name = "size" then ofInt entries.length else .nil)
  | _, _ => .ok .nil

/-- The integer that a number stands for exactly. -/
def wholeNumber? : Number → Option Int
  | .int n => some n
  | .float d => if d.isWhole then d.truncate? else none

/-- The position in a collection of `length` members that an index means:
    negative indices count from the end. -/
def position? (length : Nat) (n : Int) : Option Nat :=
  if 0 ≤ n then if n < length then some n.toNat else none
  else if -(length : Int) ≤ n then some (length + n).toNat else none

/-- The item at the index that a number means. -/
def itemAt (items : List Native) (k : Number) : Except Fault Value :=
  match (wholeNumber? k).bind (position? items.length) with
  | some i => wrapMember items[i]?
  | none => .ok .nil

/-- The member of a value at a key. -/
def index : Value → Value → Except Fault Value
  | .sequence items, .number k => itemAt items k
  | .bytes bs, .number k => itemAt ((Native.octets bs).map .int) k
  | .range r, .number k =>
    match wholeNumber? k with
    | some n => r.count.map fun length =>
        match position? length n with
        | some i => ofInt (r.get i)
        | none => .nil
    | none => .ok .nil
  | .mapping entries, key =>
    if key.native.isKey then wrapMember (Native.lookup? entries key.native) else .ok .nil
  | _, _ => .ok .nil

/-! ## Section 3: Membership -/

/-- Does a list hold an item equal to a value?  Items are tried in order. -/
def memItems : List Native → Value → Except Fault Bool
  | [], _ => .ok false
  | a :: as, v => do
    if ← a.equal v.native then return true else memItems as v

/-- Does a value contain another one?  A string contains its substrings and
    the texts of numbers in it; a collection contains what is equal to a
    member; a mapping contains its keys. -/
def contains : Value → Value → Except Fault Bool
  | .string s, .string t => .ok (occurs t.toList s.toList)
  | .string s, .number n => do
    let t ← n.native.display.mapError .operand
    return occurs t.toList s.toList
  | .sequence items, v => memItems items v
  | .bytes bs, v => memItems ((Native.octets bs).map .int) v
  | .range r, .number n => .ok (((wholeNumber? n).map r.mem).getD false)
  | .mapping entries, key =>
    .ok (key.native.isKey && (Native.lookup? entries key.native).isSome)
  | _, _ => .ok false

/-! ## Section 4: Iteration -/

/-- Wraps data one after another. -/
def wrapAll : List Native → Except Fault (List Value)
  | [] => .ok []
  | n :: ns => do
    let v ← n.wrap
    let vs ← wrapAll ns
    return v :: vs

/-- What a loop over a value walks along: a list, or a range that is not
    listed yet. -/
inductive Source where
  | items (ns : List Native)
  | range (r : Progression)

/-- What a loop over the value walks along: the members of a sequence, the
    keys of a mapping, a non-empty string as one item. -/
def source : Value → Except Fault Source
  | .sequence items => .ok (.items items)
  | .bytes bs => .ok (.items ((Native.octets bs).map .int))
  | .range r => .ok (.range r)
  | .string s => .ok (.items (if s = "" then [] else [.text s]))
  | .mapping entries => do
    let keys ← wrapAll (entries.map (·.1))
    return .items (keys.map native)
  | _ => .ok (.items [])

/-- The values that a value consists of. -/
def iterate : Value → Except Fault (List Value)
  | .sequence items => wrapAll items
  | .bytes bs => wrapAll ((Native.octets bs).map .int)
  | .range r => .ok (r.members.map (ofInt ·))
  | .string s => .ok (if s = "" then [] else [.string s])
  | .mapping entries => wrapAll (entries.map (·.1))
  | _ => .ok []

/-! ## Section 5: Integers -/

/-- Is the text an integer with optional white space around it? -/
def isIntegerText (s : String) : Bool :=
  let body := match trim s.toList with
    | '-' :: cs => cs
    | cs => cs
  !body.isEmpty && body.all isDigit

/-- The fault of a value that stands for no integer. -/
def notInteger (v : Value) : Fault :=
  match v.native.display with
  | .ok shown => .evaluation (.notInteger v.kind shown)
  | .error cause => .operand cause

/-- The integer that a value stands for: a whole number, or a text of one. -/
def toInt : Value → Except Fault Int
  | .number n =>
    match wholeNumber? n with
    | some i => .ok i
    | none =>
      match n.native.display with
      | .ok shown => .error (.evaluation (.notWhole shown))
      | .error cause => .error (.operand cause)
  | .string s =>
    if isIntegerText s then (Numeral.readInt s).mapError fun cause => .operand (.numeral cause)
    else .error (notInteger (.string s))
  | v => .error (notInteger v)

/-! ## Section 6: Description -/

/-- The name of a kind in descriptions. -/
def kindName : Value → String
  | .nil => "NilValue"
  | .boolean _ => "BoolValue"
  | .number _ => "NumberValue"
  | .string _ => "StringValue"
  | .sequence _ | .bytes _ => "SequenceValue"
  | .mapping _ => "MappingValue"
  | .range _ => "RangeValue"

/-- A value in angle brackets, for debugging. -/
def describe : Value → Except OperandFault String
  | .range r => do
    let low ← Native.writeInt r.start
    let high ← Native.writeInt (r.stop - 1)
    return "<RangeValue " ++ low ++ ".." ++ high ++ ">"
  | v => do
    let shown ← v.native.display
    return "<" ++ v.kindName ++ " " ++ shown ++ ">"

end Stencil.Value
