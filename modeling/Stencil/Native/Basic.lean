import Stencil.Native.Progression
import Stencil.Number.Double

/-! # Native data

    The data that a host program binds to names, and that filters take and
    give: nil, booleans, integers, floating point numbers, texts, lists,
    bytes, dictionaries in insertion order, ranges of integers, calendar
    dates, and positions in a running loop.

    Bytes are the sequences that are no lists.  Other such sequences of a
    host, and its sets, are not among the data; neither are texts with half
    of a surrogate pair in them, as texts consist of characters. -/

namespace Stencil

/-! ## Section 1: The data -/

/-- A day of the calendar. -/
structure Date where
  year : Nat
  month : Nat
  day : Nat
deriving DecidableEq

/-- Where a running loop stands: the item's index from zero, the number of
    items and, in a table, the number of columns. -/
structure LoopPosition where
  index0 : Int
  length : Int
  cols : Option Int
deriving DecidableEq

/-- Native data.  The entries of a dictionary are in insertion order, and
    no two of them have the same key.  Bytes are a sequence of integers, but
    no list. -/
inductive Native where
  | nil
  | bool (b : Bool)
  | int (n : Int)
  | float (d : Double)
  | text (s : String)
  | list (items : List Native)
  | bytes (bs : List UInt8)
  | dict (entries : List (Native × Native))
  | range (r : Progression)
  | date (d : Date)
  | loop (p : LoopPosition)

instance : Inhabited Native := ⟨.nil⟩

/-- The integers that bytes consist of. -/
def Native.octets (bs : List UInt8) : List Int :=
  bs.map fun b => b.toNat

/-- A number: an integer of any size, or a floating point number. -/
inductive Number where
  | int (n : Int)
  | float (d : Double)
deriving DecidableEq

namespace Number

/-! ## Section 2: Comparing numbers

    Integers and floating point numbers are compared exactly, by their
    place on one line: the signed count of units of a finite number,
    between the two infinities. -/

/-- The place of a number: the side (-1 and 1 for the infinities, 0 for
    finite numbers), then the units.  Not-a-number has no place. -/
def rank? : Number → Option (Int × Int)
  | .int n => some (0, n * Double.unitsPerOne)
  | .float (.finite s u) => some (0, Double.signedUnits s u)
  | .float (.infinite s) => some (if s then -1 else 1, 0)
  | .float (.nan _) => none

/-- Are two numbers equal? -/
def equal (a b : Number) : Bool :=
  match a.rank?, b.rank? with
  | some p, some q => p = q
  | _, _ => false

/-- Are two numbers the same datum?  They are equal, or both are no numbers
    and of one origin. -/
def same : Number → Number → Bool
  | .float (.nan p), .float (.nan q) => p = q
  | a, b => equal a b

/-- Is the first number less than the second? -/
def less (a b : Number) : Bool :=
  match a.rank?, b.rank? with
  | some p, some q => p.1 < q.1 || (p.1 = q.1 && p.2 < q.2)
  | _, _ => false

/-- The number as native data. -/
def native : Number → Native
  | .int n => .int n
  | .float d => .float d

end Number

namespace Native

/-! ## Section 3: Keys

    Keys of dictionaries are compared as the host compares data: numbers by
    value, with the booleans counting as one and zero, and everything else
    only with its own sort.  What is not a number is the same as itself. -/

/-- The number that a datum counts as: a number itself, or a boolean. -/
def number? : Native → Option Number
  | .bool b => some (.int (if b then 1 else 0))
  | .int n => some (.int n)
  | .float d => some (.float d)
  | _ => none

mutual

/-- Are two data the same?  Lists compare with lists, bytes with bytes and
    ranges with ranges, member by member; dictionaries hold the same entries
    in any order. -/
def same : Native → Native → Bool
  | .bool a, b => match b.number? with
    | some n => Number.same (.int (if a then 1 else 0)) n
    | none => false
  | .int a, b => match b.number? with
    | some n => Number.same (.int a) n
    | none => false
  | .float a, b => match b.number? with
    | some n => Number.same (.float a) n
    | none => false
  | .nil, .nil => true
  | .text a, .text b => a = b
  | .bytes a, .bytes b => a = b
  | .list as, .list bs => sameItems as bs
  | .dict as, .dict bs => as.length = bs.length && sameEntries as bs
  | .range r, .range s => r.same s
  | .date a, .date b => a = b
  | .loop p, .loop q => p = q
  | _, _ => false

/-- Are the items of two lists the same one by one? -/
def sameItems : List Native → List Native → Bool
  | [], [] => true
  | a :: as, b :: bs => same a b && sameItems as bs
  | _, _ => false

/-- Does a list of entries hold each of the given ones? -/
def sameEntries : List (Native × Native) → List (Native × Native) → Bool
  | [], _ => true
  | (k, v) :: as, bs =>
    (match bs.find? fun (l, _) => same k l with
      | some (_, w) => same v w
      | none => false) && sameEntries as bs

end

/-- Can the datum be a key?  Lists and dictionaries cannot. -/
def isKey : Native → Bool
  | .list _ => false
  | .dict _ => false
  | _ => true

/-- The value stored under a key. -/
def lookup? (entries : List (Native × Native)) (key : Native) : Option Native :=
  (entries.find? fun (k, _) => same k key).map (·.2)

/-- Stores a value under a key.  A key that is present keeps its place and
    its form. -/
def store (entries : List (Native × Native)) (key value : Native) : List (Native × Native) :=
  match entries with
  | [] => [(key, value)]
  | (k, v) :: rest =>
    if same k key then (k, value) :: rest else (k, v) :: store rest key value

/-- The dictionary with the given entries, stored one after another. -/
def ofEntries (entries : List (Native × Native)) : Native :=
  .dict (entries.foldl (fun found (k, v) => store found k v) [])

/-! ## Section 4: Truth and origin -/

/-- Does the host count the datum as true?  Nil, false, zero and what is
    empty count as false. -/
def isTrue : Native → Bool
  | .nil => false
  | .bool b => b
  | .int n => n ≠ 0
  | .float (.finite _ units) => units ≠ 0
  | .float _ => true
  | .text s => s ≠ ""
  | .list items => !items.isEmpty
  | .bytes bs => !bs.isEmpty
  | .dict entries => !entries.isEmpty
  | .range r => r.length ≠ 0
  | .date _ => true
  | .loop _ => true

/-- The datum as the result of an operation at a site: what is not a number,
    and was computed just now, carries the site from now on. -/
def locate (site : Double.Site) : Native → Native
  | .float (.nan .fresh) => .float (.nan (.computed site))
  | n => n

end Native

end Stencil
