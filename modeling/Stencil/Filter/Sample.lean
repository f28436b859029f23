import Stencil.Filter.Standard

/-! # Sample filters of a host

    Filters as a host program may register them: functions without a name
    that build lists, divide, index, or fail in various ways. -/

namespace Stencil.Filter.Sample

open Native

/-! ## Section 1: Operations -/

/-- An operation as a filter without a name. -/
def anonymous (parameters : List String) (optional : Nat) (operation : Operation) : Filter :=
  Signature.filter ⟨"<lambda>", 0, parameters, optional⟩ operation

/-- A text between two others. -/
def wrapping (front back : String) : Filter :=
  anonymous ["x"] 0 (.unary fun
    | .text s => .ok (.text (front ++ s ++ back))
    | n => .error (.unsupported "+" "str" n.typeName))

/-- The receiver and two arguments as a list. -/
def pair : Filter :=
  anonymous ["x", "a", "b"] 0 (.ternary fun x a b => .ok (.list [x, a, b]))

/-- The receiver and an optional argument as a list. -/
def opt : Filter :=
  anonymous ["x", "a"] 1 (.binaryOr .nil fun x a => .ok (.list [x, a]))

/-- The quotient rounded down. -/
def floorDivide (a b : Native) : Except OperandFault Native :=
  match a.number?, b.number? with
  | some (.int m), some (.int n) =>
    if n = 0 then .error .divisionByZero else .ok (.int (m.fdiv n))
  | some m, some n => do
    let x ← toDouble m
    let y ← toDouble n
    match y with
    | .finite _ 0 => throw .floatDivisionByZero
    | _ => return .float (x.floorDiv y)
  | _, _ => .error (.unsupported "//" a.typeName b.typeName)

/-- The position that an index means, where only integers are indices. -/
def indexOf (container : String) (length : Nat) (key : Native) : Except OperandFault Nat :=
  match key.number? with
  | some (.int n) =>
    match Value.position? length n with
    | some i => .ok i
    | none =>
      if container = "range" then .error (.outOfRange "range object")
      else if countLimit < n.natAbs ∧ n ≠ -(countLimit + 1 : Int) then .error .indexTooLarge
      else .error (.outOfRange (if container = "str" then "string" else container))
  | _ => .error (.badIndex container key.typeName)

/-- The member at an index or under a key. -/
def member (x key : Native) : Except OperandFault Native :=
  match x with
  | .list ns => do
    let i ← indexOf "list" ns.length key
    return (ns[i]?).getD .nil
  | .bytes bs => do
    let i ← indexOf "bytes" bs.length key
    return ((octets bs)[i]?.map .int).getD .nil
  | .text s => do
    let i ← indexOf "str" s.length key
    return ofChars ((s.toList.drop i).take 1)
  | .range r => do
    let i ← indexOf "range" r.length key
    return .int (r.get i)
  | .dict entries =>
    if key.isKey then
      match lookup? entries key with
      | some v => .ok v
      | none => .error key.missing
    else .error (.unhashable key.typeName)
  | n => .error (.notSubscriptable n.typeName)

/-- The quotient rounded down, as a filter. -/
def floorDiv : Filter :=
  anonymous ["a", "b"] 0 (.binary floorDivide)

/-- The member at an index or under a key, as a filter. -/
def memberAt : Filter :=
  anonymous ["x", "k"] 0 (.binary member)

/-! ## Section 2: Results and faults of their own -/

/-- Gives a datum that is no template value. -/
def foreign : Filter :=
  anonymous ["x"] 0 (.unary fun _ => .ok (.date ⟨2020, 1, 2⟩))

/-- Refuses every operand. -/
def refusing (family : OperandFault.Family) (message : String) : Filter :=
  anonymous ["x"] 0 (.unary fun _ => .error (.refused family message))

/-- Raises a fault of its own. -/
def raising (fault : Native → Fault) : Filter :=
  fun x args =>
    if args.isEmpty then .error (fault x)
    else .error (.operand (Signature.mismatch ⟨"<lambda>", 0, ["x"], 0⟩ (args.length + 1)))

/-- Raises a fault without a place. -/
def failing (message : String) : Filter :=
  raising fun _ => .custom message none

/-- Raises a fault at the line that the receiver is. -/
def failingAt (message text : String) : Filter :=
  raising fun x => .custom message (some ⟨x, .nil, text⟩)

/-- Raises a fault that no handler reaches. -/
def escaping (message : String) : Filter :=
  raising fun _ => .external message

end Stencil.Filter.Sample
