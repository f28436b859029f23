import Stencil.Native.Display
import Stencil.Statement.Basic

/-! # Scopes

    Names are looked up along a chain of frames, from the innermost frame
    outwards.  Loops run their bodies in transient frames, which vanish
    afterwards; an assignment goes past them to the nearest durable frame.
    Besides bindings, a frame carries notes for the engine: whether it is
    transient, and how often the cycles in it have been executed. -/

namespace Stencil

/-! ## Section 1: Frames -/

/-- Names and the data bound to them, in the order of first binding.  Only
    texts are names: a key of any other kind can be looked up by no template,
    so there is none here, and whatever makes bindings of a dictionary drops
    such keys. -/
abbrev Bindings := List (String × Native)

/-- Binds a name.  A name that is bound already keeps its place. -/
def Bindings.put : Bindings → String → Native → Bindings
  | [], key, value => [(key, value)]
  | (k, v) :: rest, key, value =>
    if k = key then (k, value) :: rest else (k, v) :: Bindings.put rest key value

/-- Binds names one after another. -/
def Bindings.of (pairs : List (String × Native)) : Bindings :=
  pairs.foldl (fun found (k, v) => found.put k v) []

/-- A frame: its bindings, what tells whether assignments pass it by, and
    its other notes. -/
structure Frame where
  bindings : Bindings
  transient : Native
  notes : Bindings

/-- The name of the note that holds the counters of cycles. -/
def countersNote : String := "cycles"

/-- The name of the note that tells whether a frame is transient. -/
def transientNote : String := "transient"

namespace Frame

/-- A frame for assignments to end in. -/
def durable (bindings : Bindings) : Frame :=
  ⟨bindings, .bool false, []⟩

/-- A frame that assignments pass by. -/
def passing (bindings : Bindings) : Frame :=
  ⟨bindings, .bool true, []⟩

/-- The frame around all iterations of a loop, with counters of its own. -/
def loop : Frame :=
  ⟨[], .bool true, [(countersNote, .dict [])]⟩

/-- A frame inside another one, with notes: assignments pass it by unless a
    note tells otherwise. -/
def noted (bindings notes : Bindings) : Frame :=
  ⟨bindings, (notes.lookup transientNote).getD (.bool true),
    notes.filter fun (name, _) => name ≠ transientNote⟩

/-- Do assignments pass the frame by? -/
def isTransient (f : Frame) : Bool :=
  f.transient.isTrue

/-- A note of a frame. -/
def note? (f : Frame) (name : String) : Option Native :=
  if name = transientNote then some f.transient else f.notes.lookup name

/-- Makes a note in a frame. -/
def putNote (f : Frame) (name : String) (note : Native) : Frame :=
  { f with notes := f.notes.put name note }

end Frame

/-! ## Section 2: Chains of frames -/

/-- A chain of frames, of which there is at least one. -/
inductive Scope where
  | root (frame : Frame)
  | child (frame : Frame) (parent : Scope)

namespace Scope

/-- The innermost frame. -/
def frame : Scope → Frame
  | root f => f
  | child f _ => f

/-- Changes the innermost frame. -/
def mapFrame (g : Frame → Frame) : Scope → Scope
  | root f => root (g f)
  | child f parent => child (g f) parent

/-- The chain without the innermost frame; the outermost frame stays. -/
def leave : Scope → Scope
  | root f => root f
  | child _ parent => parent

/-- The frames from the innermost outwards. -/
def frames : Scope → List Frame
  | root f => [f]
  | child f parent => f :: parent.frames

/-- A scope with only a durable frame. -/
def ofBindings (bindings : Bindings) : Scope :=
  root (.durable bindings)

/-! ## Section 3: Lookup -/

/-- The datum that a name is bound to: the innermost binding counts. -/
def get? : Scope → String → Option Native
  | root f, key => f.bindings.lookup key
  | child f parent, key =>
    match f.bindings.lookup key with
    | some value => some value
    | none => parent.get? key

/-- How many frames lie inside the one that binds a name. -/
def ownerDepth? : Scope → String → Option Nat
  | root f, key => if (f.bindings.lookup key).isSome then some 0 else none
  | child f parent, key =>
    if (f.bindings.lookup key).isSome then some 0 else (parent.ownerDepth? key).map (· + 1)

/-- Is the name bound anywhere? -/
def contains (s : Scope) (key : String) : Bool :=
  (s.ownerDepth? key).isSome

/-- The innermost note of a name. -/
def note? : Scope → String → Option Native
  | root f, name => f.note? name
  | child f parent, name =>
    match f.note? name with
    | some note => some note
    | none => parent.note? name

/-! ## Section 4: Binding -/

/-- Binds a name in the innermost frame. -/
def set (s : Scope) (key : String) (value : Native) : Scope :=
  s.mapFrame fun f => { f with bindings := f.bindings.put key value }

/-- How many frames lie inside the one that assignments end in: the nearest
    durable one, or the outermost. -/
def assignDepth : Scope → Nat
  | root _ => 0
  | child f parent => if f.isTransient then parent.assignDepth + 1 else 0

/-- Binds a name in the frame that assignments end in. -/
def assign (s : Scope) (key : String) (value : Native) : Scope :=
  match s with
  | root f => (root f).set key value
  | child f parent =>
    if f.isTransient then child f (parent.assign key value) else (child f parent).set key value

/-- Makes a note in the innermost frame that has one of that name. -/
def putNote : Scope → String → Native → Scope
  | root f, name, note => root (f.putNote name note)
  | child f parent, name, note =>
    if (f.note? name).isSome then child (f.putNote name note) parent
    else child f (parent.putNote name note)

/-! ## Section 5: The innermost frame -/

/-- The names of the innermost frame, in order. -/
def keys (s : Scope) : List String :=
  s.frame.bindings.map (·.1)

/-- The innermost frame, for debugging. -/
def describe (s : Scope) : Except OperandFault String := do
  return "<Scope bindings=[" ++ commaSeparated (s.keys.map Text.quote) ++ "] transient=" ++
    (← s.frame.transient.plainDisplay) ++ ">"

end Scope

end Stencil
