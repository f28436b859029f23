import Stencil.Proofs.Value.Range

/-! # Bytes behave as the lists of their integers

    Bytes are kept as they are, but no operation on values tells them from
    the sequence of the integers that they consist of: both are equal to
    the same values, contain and look up the same, and print the same
    text. -/

namespace Stencil

/-! ## Section 1: Octets -/

namespace Native

variable {as bs : List UInt8}

@[simp] theorem length_octets (bs : List UInt8) : (octets bs).length = bs.length :=
  List.length_map _

/-- Different bytes consist of different integers. -/
theorem octets_inj : octets as = octets bs ↔ as = bs := by
  refine (List.map_injective_iff.2 fun a b same => ?_).eq_iff
  exact UInt8.toNat_inj.1 (Int.ofNat.inj same)

/-- Bytes of one length are equal exactly if they are the same. -/
theorem equalMembers_octets (long : as.length = bs.length) :
    equalMembers (octets as) ((octets bs).map .int) = .ok (decide (as = bs)) := by
  rw [equalMembers_ints (by simpa using long)]
  simp only [octets_inj]

end Native

/-! ## Section 2: Bytes and their list -/

namespace Value

/-- The sequence of the integers that bytes consist of. -/
def ofOctets (bs : List UInt8) : Value :=
  .sequence ((Native.octets bs).map .int)

theorem length_ofOctets (bs : List UInt8) :
    ((Native.octets bs).map Native.int).length = bs.length := by
  simp

/-- Bytes are equal to what their list is equal to. -/
theorem bytes_equal_left (bs : List UInt8) (u : Value) :
    (bytes bs).equal u = (ofOctets bs).equal u := by
  show Native.equal (.bytes bs) u.native = Native.equal (.list _) u.native
  rw [Native.equal, Native.equal, wrap_native]
  cases u with
  | sequence cs =>
    show (if bs.length = cs.length then Native.equalMembers _ cs else _) =
      if _ = cs.length then Native.equalItems _ cs else _
    rw [length_ofOctets, Native.equalItems_ints]
  | bytes cs =>
    show Except.ok (decide (bs = cs)) =
      if _ = cs.length then Native.equalItems _ _ else Except.ok false
    rw [length_ofOctets, Native.equalItems_ints]
    by_cases long : bs.length = cs.length
    · rw [if_pos long, Native.equalMembers_octets long]
    · have other : bs ≠ cs := fun same => long (congrArg List.length same)
      simp [long, other]
  | range r =>
    show (r.count >>= fun n => if bs.length = n then Native.equalMembers _ _ else _) =
      r.count >>= fun n => if _ = n then Native.equalItems _ _ else _
    rw [length_ofOctets, Native.equalItems_ints]
  | _ => rfl

/-- What is equal to bytes is equal to their list. -/
theorem bytes_equal_right (bs : List UInt8) (u : Value) :
    u.equal (.bytes bs) = u.equal (ofOctets bs) := by
  show Native.equal u.native (.bytes bs) = Native.equal u.native (.list _)
  -- what has no members is not equal to either of them
  cases u with
  | sequence as =>
    show Native.equal (.list as) _ = Native.equal (.list as) _
    rw [Native.equal, Native.equal]
    show (if as.length = bs.length then Native.equalItems as _ else _) =
      if as.length = _ then Native.equalItems as _ else _
    rw [length_ofOctets]
  | bytes as =>
    show Native.equal (.bytes as) _ = Native.equal (.bytes as) _
    rw [Native.equal, Native.equal]
    show Except.ok (decide (as = bs)) =
      if as.length = _ then Native.equalMembers _ _ else Except.ok false
    rw [length_ofOctets]
    by_cases long : as.length = bs.length
    · rw [if_pos long, Native.equalMembers_octets long]
    · have other : as ≠ bs := fun same => long (congrArg List.length same)
      simp [long, other]
  | range r =>
    show Native.equal (.range r) _ = Native.equal (.range r) _
    rw [Native.equal, Native.equal]
    show (r.count >>= fun n => if n = bs.length then Native.equalMembers _ _ else _) =
      r.count >>= fun n => if n = _ then Native.equalMembers _ _ else _
    rw [length_ofOctets]
  | mapping entries =>
    show Native.equal (.dict entries) _ = Native.equal (.dict entries) _
    rw [Native.equal, Native.equal]
    rfl
  | number n => cases n <;> rfl
  | _ => rfl

/-- Bytes answer as the list of their integers does. -/
theorem bytes_alike (bs : List UInt8) : (bytes bs).Alike (ofOctets bs) where
  equal_left := bytes_equal_left bs
  equal_right := bytes_equal_right bs
  contains _ := rfl
  truth := by cases bs <;> rfl
  property _ := rfl
  index key := by cases key <;> rfl
  iterate := rfl
  print := by
    show Native.printAs false (.bytes bs) = Native.printAs false (.list _)
    rw [Native.printAs, Native.printAs, Native.printItems_ints]

end Value

end Stencil
