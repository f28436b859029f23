import Stencil.Document.Yaml.Binary
import Stencil.Document.Yaml.Implicit
import Stencil.Document.Yaml.Node

/-! # YAML

    Reading of a part of YAML: a text with one document of block and flow
    collections and scalars.  Anchors, aliases, directives, merging and tags,
    but for the one for bytes, are malformed here, and a date with a time is
    a text.  Of two entries with one key, the first gives the place and the
    later the value.

    A document is filled layer by layer: first its root, then the members of
    the root, then their members.  So of two faults the one in fewer
    collections is reported, and of two in the same layer the first. -/

namespace Stencil.Yaml

/-! ## Section 1: Faults by layer -/

/-- A fault of a document. -/
structure LayerFault where
  /-- How many collections are around it. -/
  depth : Nat
  cause : DocumentFault

/-- The fault that is met first, where `f` stands in front of `g`. -/
def LayerFault.first (f g : LayerFault) : LayerFault :=
  if g.depth < f.depth then g else f

/-- What a part of a document denotes. -/
abbrev Reading := Except LayerFault

/-- Two parts, one behind the other, joined by `f`. -/
def Reading.join {α β γ : Type} (f : α → β → γ) : Reading α → Reading β → Reading γ
  | .ok a, .ok b => .ok (f a b)
  | .error fault, .ok _ => .error fault
  | .ok _, .error fault => .error fault
  | .error fault, .error other => .error (fault.first other)

/-! ## Section 2: Nodes -/

/-- What a scalar denotes: plain ones have a type, others are texts. -/
def scalarValue (depth : Nat) (text : String) (plain : Bool) : Reading Native :=
  if plain then (ofPlain text).mapError (⟨depth, ·⟩) else .ok (.text text)

/-- What the tag for bytes makes of a scalar, if there is one. -/
def binaryValue (depth : Nat) (text : Option String) : Reading Native :=
  match text.bind bytesOf? with
  | some bs => .ok (.bytes bs)
  | none => .error ⟨depth, .malformed⟩

/-- What a key denotes.  Collections are no keys; the sign for another value
    is a text as a key. -/
def keyValue (depth : Nat) : Node → Reading Native
  | .scalar "=" true => .ok (.text "=")
  | .scalar text plain => scalarValue depth text plain
  | .binary text => binaryValue depth text
  | .sequence _ | .mapping _ => .error ⟨depth, .malformed⟩

mutual

/-- The datum that a node denotes, with `depth` collections around it. -/
def Node.value (depth : Nat) : Node → Reading Native
  | .scalar text plain => scalarValue depth text plain
  | .binary text => binaryValue depth text
  | .sequence items => (valuesOf (depth + 1) items).map .list
  | .mapping entries => (entriesOf (depth + 1) entries).map .ofEntries

/-- The data that some nodes denote. -/
def valuesOf (depth : Nat) : List Node → Reading (List Native)
  | [] => .ok []
  | n :: ns => Reading.join List.cons (n.value depth) (valuesOf depth ns)

/-- The entries that some pairs of nodes denote. -/
def entriesOf (depth : Nat) : List (Node × Node) → Reading (List (Native × Native))
  | [] => .ok []
  | (k, v) :: es =>
    Reading.join List.cons (Reading.join Prod.mk (keyValue depth k) (v.value depth))
      (entriesOf depth es)

end

/-! ## Section 3: Texts -/

/-- Reads a text.  An empty one denotes nil. -/
def read (text : String) : Except DocumentFault Native := do
  match ← document (tokens text) with
  | some n => (n.value 0).mapError LayerFault.cause
  | none => return .nil

end Stencil.Yaml
