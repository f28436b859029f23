import Stencil.Value.Basic

/-! # Equality and order of values

    Values of different kinds differ, except that sequences, bytes among
    them, and ranges are equal when their members are.  Mappings are equal when they have
    the same keys and equal values.  Only numbers and strings have an
    order. -/

namespace Stencil

/-! ## Section 1: Counting -/

/-- The most members that can be counted. -/
def countLimit : Nat := Nat.pow 2 63 - 1

/-- The number of members of a range, if it can be counted. -/
def Progression.count (r : Progression) : Except Fault Nat :=
  if r.length ≤ countLimit then .ok r.length else .error (.operand .lengthTooLarge)

/-! ## Section 2: Equality -/

namespace Native

/-- Do two dictionaries have the same keys? -/
def sameKeys (as bs : List (Native × Native)) : Bool :=
  as.length = bs.length && as.all fun (k, _) => bs.any fun (l, _) => same l k

/-- Are integers equal to data, one by one? -/
def equalMembers : List Int → List Native → Except Fault Bool
  | n :: ns, b :: bs => do
    match ← b.wrap with
    | .number m => if Number.equal (.int n) m then equalMembers ns bs else return false
    | _ => return false
  | _, _ => .ok true

/-- Is a datum that has no members equal to a value? -/
def equalAtom : Native → Value → Bool
  | .nil, .nil => true
  | .bool a, .boolean b => a = b
  | .int a, .number b => Number.equal (.int a) b
  | .float a, .number b => Number.equal (.float a) b
  | .text a, .string b => a = b
  | _, _ => false

/-- Are entries without members of their own equal to those of a mapping
    that has the same keys? -/
def equalAtomEntries : List (Native × Native) → List (Native × Native) → Except Fault Bool
  | [], _ => .ok true
  | (k, v) :: as, bs => do
    let w ← ((lookup? bs k).getD .nil).wrap
    if equalAtom v w then equalAtomEntries as bs else return false

mutual

/-- Are two data equal as values?  The first is wrapped before the second,
    and members are compared in order up to the first difference. -/
def equal : Native → Native → Except Fault Bool
  | .list as, b => do
    match ← b.wrap with
    | .sequence bs => if as.length = bs.length then equalItems as bs else return false
    | .bytes bs =>
      if as.length = bs.length then equalItems as ((octets bs).map .int) else return false
    | .range r =>
      if as.length = (← r.count) then equalItems as (r.members.map .int) else return false
    | _ => return false
  | .bytes as, b => do
    match ← b.wrap with
    | .sequence bs =>
      if as.length = bs.length then equalMembers (octets as) bs else return false
    | .bytes bs => return as = bs
    | .range r =>
      if as.length = (← r.count) then equalMembers (octets as) (r.members.map .int)
      else return false
    | _ => return false
  | .dict as, b => do
    match ← b.wrap with
    | .mapping bs => if sameKeys as bs then equalEntries as bs else return false
    | _ => return false
  | .range r, b => do
    match ← b.wrap with
    | .sequence bs =>
      if (← r.count) = bs.length then equalMembers r.members bs else return false
    | .bytes bs =>
      if (← r.count) = bs.length then equalMembers r.members ((octets bs).map .int)
      else return false
    | .range s =>
      let _ ← r.count
      let _ ← s.count
      return r.same s
    | _ => return false
  | .loop p, b => do
    let as ← p.entries.mapError .operand
    match ← b.wrap with
    | .mapping bs => if sameKeys as bs then equalAtomEntries as bs else return false
    | _ => return false
  | a, b => do
    let _ ← a.wrap
    return equalAtom a (← b.wrap)

/-- Are the items of two lists of one length equal one by one? -/
def equalItems : List Native → List Native → Except Fault Bool
  | a :: as, b :: bs => do
    if ← equal a b then equalItems as bs else return false
  | _, _ => .ok true

/-- Are entries equal to those under the same keys of another mapping? -/
def equalEntries : List (Native × Native) → List (Native × Native) → Except Fault Bool
  | [], _ => .ok true
  | (k, v) :: as, bs => do
    if ← equal v ((lookup? bs k).getD .nil) then equalEntries as bs else return false

end

end Native

namespace Value

/-- Are two values equal? -/
def equal (a b : Value) : Except Fault Bool :=
  a.native.equal b.native

/-! ## Section 3: Order -/

/-- Is the first value less than the second? -/
def less : Value → Value → Bool
  | .number a, .number b => Number.less a b
  | .string a, .string b => a < b
  | _, _ => false

end Value

end Stencil
