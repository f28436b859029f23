import Stencil.Filter.Standard
import Stencil.Loop.Cycle
import Stencil.Scope.Forest

/-! # Requests of a host

    A host asks scopes for data by any keys, and may have given a frame a
    datum as its parent that is no frame.  The chain of such a frame ends
    there, and a search that goes on from its end is a fault, as data have
    neither bindings nor notes. -/

namespace Stencil.ScopeTree

/-! ## Section 1: Ends of chains -/

/-- What a chain ends in: nil, or what a note gives in place of a frame. -/
def ending (t : ScopeTree) (i : Nat) : Native :=
  (((t.path i).getLast?.bind fun j => (t.frameAt j).notes.lookup parentNote)).getD .nil

/-- Asks for a field beyond the end of a chain. -/
def beyond (t : ScopeTree) (i : Nat) (field : String) : Except OperandFault Unit :=
  match t.ending i with
  | .nil => .ok ()
  | n => .error (.noAttribute n.typeName field)

/-- Searches a chain for bindings. -/
def searchBindings {α : Type} (t : ScopeTree) (i : Nat) (found : Option α) :
    Except OperandFault (Option α) :=
  match found with
  | some a => .ok (some a)
  | none => (t.beyond i "bindings").map fun _ => none

/-- Searches a chain for notes. -/
def searchNotes {α : Type} (t : ScopeTree) (i : Nat) (found : Option α) :
    Except OperandFault (Option α) :=
  match found with
  | some a => .ok (some a)
  | none => (t.beyond i "meta").map fun _ => none

/-! ## Section 2: Keys -/

/-- The name that a datum is, if it is one.  What can be no key cannot be
    looked up at all. -/
def sought? : Native → Except OperandFault (Option String)
  | .text key => .ok (some key)
  | n => if n.isKey then .ok none else .error (.unhashable n.typeName)

/-- The name that a datum is. -/
def nameOf : Native → Except OperandFault String
  | .text key => .ok key
  | n => .error (.notName n.fullTypeName)

/-! ## Section 3: Lookup -/

/-- The number of the frame that a key is bound in. -/
def ownerOf (t : ScopeTree) (i : Nat) (key : Native) : Except OperandFault (Option Nat) := do
  t.searchBindings i ((← sought? key).bind (t.owner? i))

/-- The datum that a key is bound to. -/
def datumOf (t : ScopeTree) (i : Nat) (key : Native) : Except OperandFault (Option Native) := do
  t.searchBindings i ((← sought? key).bind (t.get? i))

/-- The datum that a key is bound to, or else the default. -/
def datumOr (t : ScopeTree) (i : Nat) (key default : Native) : Except OperandFault Native :=
  (t.datumOf i key).map (·.getD default)

/-- The datum that a key is bound to, which must be there. -/
def item (t : ScopeTree) (i : Nat) (key : Native) : Except OperandFault Native := do
  match ← t.datumOf i key with
  | some value => return value
  | none => throw key.missing

/-- Is a key bound?  Only texts can be. -/
def contains (t : ScopeTree) (i : Nat) : Native → Except OperandFault Bool
  | .text key => (t.ownerOf i (.text key)).map Option.isSome
  | _ => .ok false

/-- The note that a key has. -/
def noteOf (t : ScopeTree) (i : Nat) (key : Native) : Except OperandFault (Option Native) := do
  t.searchNotes i ((← sought? key).bind (t.note? i))

/-! ## Section 4: Changes -/

/-- Binds a key in a frame. -/
def bind (t : ScopeTree) (i : Nat) (key value : Native) : Except OperandFault ScopeTree :=
  (nameOf key).map fun name => t.set i name value

/-- Binds a key in the frame that assignments end in.  Past the end of a
    chain of transient frames there is none. -/
def bindDurably (t : ScopeTree) (i : Nat) (key value : Native) :
    Except OperandFault ScopeTree := do
  if (t.path i).all fun j => (t.frameAt j).isTransient then t.beyond i "meta"
  return t.assign i (← nameOf key) value

/-! ## Section 5: Evaluation -/

/-- What names stand for, seen from a frame. -/
def names (t : ScopeTree) (i : Nat) : Names :=
  fun name => ((t.datumOf i (.text name)).map (·.getD .nil)).mapError .operand

/-- The name of the note that holds the filters. -/
def filtersNote : String := "filters"

/-- Can filters be applied?  The standard ones are there unless a note gives
    something in their place. -/
def filters (t : ScopeTree) (i : Nat) : Except OperandFault Unit := do
  match ← t.noteOf i (.text filtersNote) with
  | none | some .nil => return ()
  | some n => throw (.noAttribute n.typeName "invoke")

/-- The value of an expression, seen from a frame. -/
def eval (t : ScopeTree) (i : Nat) (e : Expr) : Except Fault Value :=
  match t.filters i with
  | .ok _ => e.eval (Filter.standard true) (t.names i)
  | .error cause =>
    (e.eval { Filter.standard true with filters := [] } (t.names i)).mapError fun
      | .undefinedFilter _ => .operand cause
      | fault => fault

/-- The next text of a cycle, and the tree with one more execution of it
    counted. -/
def cycle (t : ScopeTree) (i : Nat) (c : Cycle) : Except Fault String × ScopeTree :=
  match t.noteOf i (.text countersNote) with
  | .error cause => (.error (.operand cause), t)
  | .ok _ =>
    match runCycle c ⟨t.scopeAt i, #[], #[], 0⟩ with
    | .ok text run => (.ok text, t.writeBack i run.scope)
    | .error f run => (.error f.fault, t.writeBack i run.scope)

end Stencil.ScopeTree
