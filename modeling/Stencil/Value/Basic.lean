import Stencil.Fault
import Stencil.Native.Display

/-! # Values

    Every expression has a value of one of seven kinds.  Native data is
    wrapped on the way in, and a value is native data again on the way out.
    Members of sequences and mappings are wrapped when they are reached, so
    data that is no template value may lie inside a list and only be
    refused when an expression comes to it. -/

namespace Stencil

/-! ## Section 1: The kinds of values -/

/-- A value: native data whose outermost layer is known to be a template
    value.  Bytes are of the kind of sequences. -/
inductive Value where
  | nil
  | boolean (b : Bool)
  | number (n : Number)
  | string (s : String)
  | sequence (items : List Native)
  | bytes (bs : List UInt8)
  | mapping (entries : List (Native × Native))
  | range (r : Progression)

instance : Inhabited Value := ⟨.nil⟩

namespace Value

/-- The value as native data. -/
def native : Value → Native
  | .nil => .nil
  | .boolean b => .bool b
  | .number n => n.native
  | .string s => .text s
  | .sequence items => .list items
  | .bytes bs => .bytes bs
  | .mapping entries => .dict entries
  | .range r => .range r

/-- The name of a value's kind. -/
def kind : Value → String
  | .nil => "nil"
  | .boolean _ => "boolean"
  | .number _ => "number"
  | .string _ => "string"
  | .sequence _ | .bytes _ => "sequence"
  | .mapping _ => "mapping"
  | .range _ => "range"

/-- An integer as a value. -/
def ofInt (n : Int) : Value :=
  .number (.int n)

end Value

/-! ## Section 2: Loop positions as mappings -/

namespace LoopPosition

/-- Is this the first item? -/
def isFirst (p : LoopPosition) : Bool :=
  p.index0 = 0

/-- Is this the last item? -/
def isLast (p : LoopPosition) : Bool :=
  p.index0 = p.length - 1

/-- The cell of the row, from zero, in a table of `cols` columns. -/
def col0 (p : LoopPosition) (cols : Int) : Int :=
  p.index0.fmod cols

/-- The row, from one, in a table of `cols` columns. -/
def row (p : LoopPosition) (cols : Int) : Int :=
  p.index0.fdiv cols + 1

/-- What every loop tells about its position. -/
def loopEntries (p : LoopPosition) : List (Native × Native) :=
  [(.text "index", .int (p.index0 + 1)),
    (.text "index0", .int p.index0),
    (.text "rindex", .int (p.length - p.index0)),
    (.text "rindex0", .int (p.length - p.index0 - 1)),
    (.text "first", .bool p.isFirst),
    (.text "last", .bool p.isLast),
    (.text "length", .int p.length)]

/-- What a table tells besides. -/
def tableEntries (p : LoopPosition) (cols : Int) : List (Native × Native) :=
  [(.text "col", .int (p.col0 cols + 1)),
    (.text "col0", .int (p.col0 cols)),
    (.text "col_first", .bool (p.col0 cols = 0)),
    (.text "col_last", .bool (p.col0 cols + 1 = cols || p.isLast)),
    (.text "row", .int (p.row cols))]

/-- A loop position as a dictionary.  A table without columns has no cells. -/
def entries (p : LoopPosition) : Except OperandFault (List (Native × Native)) :=
  match p.cols with
  | none => .ok p.loopEntries
  | some cols =>
    if cols = 0 then .error .remainderByZero
    else .ok (p.loopEntries ++ p.tableEntries cols)

end LoopPosition

/-! ## Section 3: Wrapping -/

/-- Native data as a value. -/
def Native.wrap : Native → Except Fault Value
  | .nil => .ok .nil
  | .bool b => .ok (.boolean b)
  | .int n => .ok (.number (.int n))
  | .float d => .ok (.number (.float d))
  | .text s => .ok (.string s)
  | .list items => .ok (.sequence items)
  | .bytes bs => .ok (.bytes bs)
  | .dict entries => .ok (.mapping entries)
  | .range r => .ok (.range r)
  | .loop p => (p.entries.map .mapping).mapError .operand
  | .date d => .error (.evaluation (.foreign (Native.date d).plainTypeName))

/-- A value comes back from its native data. -/
@[simp] theorem Value.wrap_native (v : Value) : v.native.wrap = .ok v := by
  cases v with
  | number n => cases n <;> rfl
  | _ => rfl

end Stencil
