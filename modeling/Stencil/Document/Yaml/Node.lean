import Stencil.Document.Yaml.Token

/-! # YAML nodes

    The tree that the tokens of a text form.  Whatever may be left out,
    such as a value behind a key, is an empty plain scalar. -/

namespace Stencil.Yaml

/-! ## Section 1: Nodes -/

/-- A node: a scalar and whether it is plain, a sequence, a mapping with its
    entries in order, or what the tag for bytes stands in front of: a scalar,
    or a collection, which holds no bytes. -/
inductive Node where
  | scalar (text : String) (plain : Bool)
  | sequence (items : List Node)
  | mapping (entries : List (Node × Node))
  | binary (text : Option String)

/-- The node that stands for nothing. -/
def Node.empty : Node := .scalar "" true

/-- The node with the tag for bytes in front of it. -/
def Node.tagged : Node → Node
  | .scalar text _ => .binary (some text)
  | _ => .binary none

/-! ## Section 2: Reading a node

    Every reader returns what it read together with the tokens behind it. -/

/-- Why a token cannot stand at the head: it has no place there, or it is
    where the text breaks off. -/
def unexpected : List Token → DocumentFault
  | .broken cause :: _ => cause
  | _ => .malformed

/-- Does one of these tokens come next? -/
def follows (stops : List Token) : List Token → Bool
  | [] => false
  | t :: _ => stops.contains t

/-- Does a node follow a tag?  If not, the tag belongs to an empty scalar. -/
def continues (block level : Bool) : List Token → Bool
  | .scalar _ _ :: _ | .flowSequence :: _ | .flowMapping :: _ | .broken _ :: _ => true
  | .blockSequence :: _ | .blockMapping :: _ => block
  | .item :: _ => level
  | _ => false

/-- Drops a token that may come next. -/
def skipToken (t : Token) : List Token → List Token
  | [] => []
  | u :: ts => if u = t then ts else u :: ts

mutual

/-- The node at the head.  A block collection may only start if `block`, and
    a sequence without indentation of its own only if `level`. -/
def node (block level : Bool) : Nat → List Token → Except DocumentFault (Node × List Token)
  | 0, _ => .error .malformed
  | fuel + 1, ts =>
    match ts with
    | .scalar text plain :: ts => .ok (.scalar text plain, ts)
    | .binary :: ts =>
      if continues block level ts then (node block level fuel ts).map fun (n, ts) => (n.tagged, ts)
      else .ok (Node.empty.tagged, ts)
    | .flowSequence :: ts => (flowItems true fuel ts).map fun (ns, ts) => (.sequence ns, ts)
    | .flowMapping :: ts => (flowEntries true fuel ts).map fun (es, ts) => (.mapping es, ts)
    | .blockSequence :: ts =>
      if block then (blockItems true fuel ts).map fun (ns, ts) => (.sequence ns, ts)
      else .error .malformed
    | .blockMapping :: ts =>
      if block then (blockEntries fuel ts).map fun (es, ts) => (.mapping es, ts)
      else .error .malformed
    | .item :: ts =>
      if level then (blockItems false fuel (.item :: ts)).map fun (ns, ts) => (.sequence ns, ts)
      else .error .malformed
    | ts => .error (unexpected ts)

/-- The node at the head, or the empty one in front of some tokens. -/
def nodeUnless (stops : List Token) (block level : Bool) :
    Nat → List Token → Except DocumentFault (Node × List Token)
  | 0, _ => .error .malformed
  | fuel + 1, ts => if follows stops ts then .ok (.empty, ts) else node block level fuel ts

/-- The items of a block sequence.  One that has an indentation of its own
    ends with a token, another one before whatever is no item. -/
def blockItems (indented : Bool) :
    Nat → List Token → Except DocumentFault (List Node × List Token)
  | 0, _ => .error .malformed
  | fuel + 1, ts =>
    match ts with
    | .item :: ts => do
      let stops := if indented then [.item, .blockEnd] else [.item, .key, .value, .blockEnd]
      let (n, ts) ← nodeUnless stops true false fuel ts
      let (ns, ts) ← blockItems indented fuel ts
      return (n :: ns, ts)
    | .blockEnd :: ts => .ok ([], if indented then ts else .blockEnd :: ts)
    | ts => if indented then .error (unexpected ts) else .ok ([], ts)

/-- The entries of a block mapping. -/
def blockEntries : Nat → List Token → Except DocumentFault (List (Node × Node) × List Token)
  | 0, _ => .error .malformed
  | fuel + 1, ts =>
    match ts with
    | .key :: ts => do
      let stops := [.key, .value, .blockEnd]
      let (k, ts) ← nodeUnless stops true true fuel ts
      let (v, ts) ← match ts with
        | .value :: ts => nodeUnless stops true true fuel ts
        | ts => .ok (.empty, ts)
      let (es, ts) ← blockEntries fuel ts
      return ((k, v) :: es, ts)
    | .blockEnd :: ts => .ok ([], ts)
    | ts => .error (unexpected ts)

/-- The items of a flow sequence.  A comma stands in front of each but the
    first, and may stand behind the last.  A key with its value is a mapping
    of one entry. -/
def flowItems (first : Bool) :
    Nat → List Token → Except DocumentFault (List Node × List Token)
  | 0, _ => .error .malformed
  | fuel + 1, ts =>
    match ts with
    | .flowSequenceEnd :: ts => .ok ([], ts)
    | ts =>
      if !first && !follows [.comma] ts then .error (unexpected ts)
      else
        match (if first then ts else skipToken .comma ts) with
        | .flowSequenceEnd :: ts => .ok ([], ts)
        | .key :: ts => do
          let (k, ts) ← nodeUnless [.value, .comma, .flowSequenceEnd] false false fuel ts
          let (v, ts) ← match ts with
            | .value :: ts => nodeUnless [.comma, .flowSequenceEnd] false false fuel ts
            | ts => .ok (.empty, ts)
          let (ns, ts) ← flowItems false fuel ts
          return (.mapping [(k, v)] :: ns, ts)
        | ts => do
          let (n, ts) ← node false false fuel ts
          let (ns, ts) ← flowItems false fuel ts
          return (n :: ns, ts)

/-- The entries of a flow mapping.  An entry may be a node without a value. -/
def flowEntries (first : Bool) :
    Nat → List Token → Except DocumentFault (List (Node × Node) × List Token)
  | 0, _ => .error .malformed
  | fuel + 1, ts =>
    match ts with
    | .flowMappingEnd :: ts => .ok ([], ts)
    | ts =>
      if !first && !follows [.comma] ts then .error (unexpected ts)
      else
        match (if first then ts else skipToken .comma ts) with
        | .flowMappingEnd :: ts => .ok ([], ts)
        | .key :: ts => do
          let (k, ts) ← nodeUnless [.value, .comma, .flowMappingEnd] false false fuel ts
          let (v, ts) ← match ts with
            | .value :: ts => nodeUnless [.comma, .flowMappingEnd] false false fuel ts
            | ts => .ok (.empty, ts)
          let (es, ts) ← flowEntries false fuel ts
          return ((k, v) :: es, ts)
        | ts => do
          let (k, ts) ← node false false fuel ts
          let (es, ts) ← flowEntries false fuel ts
          return ((k, .empty) :: es, ts)

end

/-! ## Section 3: Documents -/

/-- The node of the only document of a text; none if the text is empty.  A
    marker may stand in front, and any number of end marks behind. -/
def document (ts : List Token) : Except DocumentFault (Option Node) := do
  if ts.isEmpty then return none
  let fuel := 4 * ts.length + 4
  let (n, ts) ← match ts with
    | .documentStart :: ts =>
      if ts.isEmpty then .ok (.empty, ts)
      else nodeUnless [.documentStart, .documentEnd] true false fuel ts
    | ts => node true false fuel ts
  let ts := ts.dropWhile (· = .documentEnd)
  if ts.isEmpty then return some n else throw (unexpected ts)

end Stencil.Yaml
