import Stencil.OperandFault
import Stencil.Scope.Basic

/-! # Trees of scopes

    Scopes that share their outer frames form a tree.  Each of its frames is
    kept once; the scope that starts at a frame is the chain from there to
    the root, and what changes along one chain is seen from every other
    chain through the same frames. -/

namespace Stencil

/-- A frame of a tree, and the number of the one around it. -/
structure TreeFrame where
  frame : Frame
  parent : Option Nat

/-- The frames of a tree, numbered in the order of creation; the one around
    a frame has a smaller number. -/
structure ScopeTree where
  frames : Array TreeFrame

namespace ScopeTree

/-! ## Section 1: Chains -/

/-- The numbers of the frames from `i` outwards. -/
def path (t : ScopeTree) (i : Nat) : List Nat :=
  match (t.frames[i]?).bind TreeFrame.parent with
  | some p => if p < i then i :: path t p else [i]
  | none => [i]
termination_by i

/-- The frame of a number. -/
def frameAt (t : ScopeTree) (i : Nat) : Frame :=
  (t.frames[i]?.map TreeFrame.frame).getD (.durable [])

/-- The chain of given frames, the innermost first. -/
def chain (f : Frame) : List Frame → Scope
  | [] => .root f
  | g :: rest => .child f (chain g rest)

/-- The scope that starts at a frame. -/
def scopeAt (t : ScopeTree) (i : Nat) : Scope :=
  chain (t.frameAt i) ((t.path i).tail.map t.frameAt)

/-! ## Section 2: Changes -/

/-- A tree with only a root. -/
def ofBindings (bindings : Bindings) : ScopeTree :=
  ⟨#[⟨.durable bindings, none⟩]⟩

/-- Adds a durable frame, inside another one or on its own. -/
def add (t : ScopeTree) (bindings : Bindings) (parent : Option Nat) : ScopeTree :=
  ⟨t.frames.push ⟨.durable bindings, parent⟩⟩

/-- The name of the note that tells what is around a frame. -/
def parentNote : String := "parent"

/-- The names that no note of a new frame may have. -/
def reservedNotes : List String :=
  ["self", "bindings"]

/-- Adds a frame with notes inside another one.  A frame with a note about
    its own parent stands alone. -/
def addChild (t : ScopeTree) (parent : Nat) (bindings notes : Bindings) :
    Except OperandFault ScopeTree :=
  match notes.find? fun (name, _) => reservedNotes.contains name with
  | some (name, _) => .error (.repeatedArgument "Scope.child" name)
  | none =>
    let parent? := if (notes.lookup parentNote).isSome then none else some parent
    .ok ⟨t.frames.push ⟨.noted bindings notes, parent?⟩⟩

/-- Puts a frame in the place of another one. -/
def replace (t : ScopeTree) (i : Nat) (frame : Frame) : ScopeTree :=
  ⟨t.frames.modify i fun f => { f with frame := frame }⟩

/-- Puts the frames of a chain in the places of those from `i` outwards. -/
def writeBack (t : ScopeTree) (i : Nat) (s : Scope) : ScopeTree :=
  ((t.path i).zip s.frames).foldl (fun t (j, frame) => t.replace j frame) t

/-- Binds a name in a frame. -/
def set (t : ScopeTree) (i : Nat) (key : String) (value : Native) : ScopeTree :=
  t.writeBack i ((t.scopeAt i).set key value)

/-- Binds a name in the frame that assignments from `i` end in. -/
def assign (t : ScopeTree) (i : Nat) (key : String) (value : Native) : ScopeTree :=
  t.writeBack i ((t.scopeAt i).assign key value)

/-! ## Section 3: Lookup -/

/-- The number of the frame that a name is bound in, seen from `i`. -/
def owner? (t : ScopeTree) (i : Nat) (key : String) : Option Nat :=
  ((t.scopeAt i).ownerDepth? key).bind ((t.path i)[·]?)

/-- The datum that a name is bound to, seen from `i`. -/
def get? (t : ScopeTree) (i : Nat) (key : String) : Option Native :=
  (t.scopeAt i).get? key

/-- The innermost note of a name, seen from `i`.  A frame that stands alone
    notes what it has been given as its parent, or nil. -/
def note? (t : ScopeTree) (i : Nat) (name : String) : Option Native :=
  if name = parentNote ∧ (t.path i).length = 1 then
    some (((t.frameAt i).notes.lookup name).getD .nil)
  else (t.scopeAt i).note? name

end ScopeTree

end Stencil
