import Stencil.Value.Access

/-! # Filters

    A filter is a function on native data: the receiver, then any number of
    arguments.  A registry holds filters by name.  Applying a filter
    unwraps its operands and wraps its result; what goes wrong with the
    operands inside is an evaluation error, and what a host filter raises
    on its own account passes through. -/

namespace Stencil

/-! ## Section 1: Filters and registries -/

/-- A filter. -/
abbrev Filter := Native → List Native → Except Fault Native

/-- The filters that templates can use.  The newest registration of a name
    comes first.  In a strict registry, undefined filters are errors;
    otherwise they leave the receiver as it is.  What filters compute
    carries the site at which they are applied. -/
structure Registry where
  strict : Bool
  filters : List (String × Filter)
  site : Double.Site

namespace Registry

/-- The filter of a name. -/
def find? (r : Registry) (name : String) : Option Filter :=
  r.filters.lookup name

/-- Is there a filter of this name? -/
def contains (r : Registry) (name : String) : Bool :=
  (r.find? name).isSome

/-- Registers a filter, in place of any other of its name. -/
def register (r : Registry) (name : String) (f : Filter) : Registry :=
  { r with filters := (name, f) :: r.filters }

/-- The registry for an expression that is evaluated at a moment. -/
def atMoment (r : Registry) (moment : Nat) : Registry :=
  { r with site := .outside moment }

/-- The registry for the first part of the expression at hand. -/
def first (r : Registry) : Registry :=
  { r with site := r.site.first }

/-- The registry for the other parts of the expression at hand. -/
def others (r : Registry) : Registry :=
  { r with site := r.site.others }

/-- The outcome of a filter: its result as a value, or the fault.  A fault
    whose message cannot be written is not one of the filter. -/
def conclude (name : String) (site : Double.Site) : Except Fault Native → Except Fault Value
  | .ok n => (n.locate site).wrap
  | .error (.operand (.missingKey none)) => .error (.operand (.missingKey none))
  | .error (.operand cause) => .error (.evaluation (.filterFailed name cause))
  | .error fault => .error fault

/-- Applies the filter of a name to values. -/
def invoke (r : Registry) (name : String) (receiver : Value) (args : List Value) :
    Except Fault Value :=
  match r.find? name with
  | some f => conclude name r.site (f receiver.native (args.map Value.native))
  | none => if r.strict then .error (.undefinedFilter name) else .ok receiver

end Registry

/-! ## Section 2: Filters with a fixed number of arguments -/

/-- An operation with a fixed number of operands, the receiver included; the
    last one may have a default. -/
inductive Operation where
  | unary (f : Native → Except OperandFault Native)
  | binary (f : Native → Native → Except OperandFault Native)
  | binaryOr (fallback : Native) (f : Native → Native → Except OperandFault Native)
  | ternary (f : Native → Native → Native → Except OperandFault Native)

/-- Applies an operation, if the number of operands is right. -/
def Operation.apply? : Operation → Native → List Native → Option (Except OperandFault Native)
  | .unary f, x, [] => some (f x)
  | .binary f, x, [a] => some (f x a)
  | .binaryOr _ f, x, [a] => some (f x a)
  | .binaryOr a f, x, [] => some (f x a)
  | .ternary f, x, [a, b] => some (f x a b)
  | _, _, _ => none

/-- How messages about the number of operands speak of an operation: its
    name, how many operands it has that a template does not see, and the
    names of its parameters, of which the last `optional` may be left
    out. -/
structure Signature where
  callee : String
  hidden : Nat
  parameters : List String
  optional : Nat

/-- The fault of a call with the wrong number of operands. -/
def Signature.mismatch (s : Signature) (operands : Nat) : OperandFault :=
  let most := s.parameters.length
  if most < operands then
    .excessArguments s.callee (most - s.optional + s.hidden) (most + s.hidden) (operands + s.hidden)
  else
    .missingArguments s.callee ((s.parameters.take (most - s.optional)).drop operands)

/-- An operation as a filter. -/
def Signature.filter (s : Signature) (operation : Operation) : Filter :=
  fun x args =>
    match operation.apply? x args with
    | some result => result.mapError .operand
    | none => .error (.operand (s.mismatch (args.length + 1)))

end Stencil
