import Stencil.Native.Progression

/-! # The members of a progression

    Everything that a progression computes without listing its members is
    what the list of them gives: the slices of it, the progression in the
    opposite order, membership, and whether two progressions are the same.
    The one fact about division behind this is the length of a progression
    that stops a whole number of steps behind its start. -/

namespace Stencil.Progression

/-! ## Section 1: Lengths -/

/-- Whole steps of a positive width are counted exactly. -/
theorem steps_counted {width : Int} (h : 0 < width) (k : Nat) (hk : 0 < k) :
    ((k * width - 1) / width + 1).toNat = k := by
  have apart : (k : Int) * width - 1 = (width - 1) + width * (k - 1) := by
    rw [Int.mul_sub, Int.mul_comm]
    omega
  rw [apart, Int.add_mul_ediv_left _ _ (by omega), Int.ediv_eq_zero_of_lt (by omega) (by omega)]
  omega

/-- A progression that stops `k` steps behind its start has `k` members. -/
theorem length_of_stop {r : Progression} {k : Nat} (h : r.stop = r.start + k * r.step) :
    r.length = k := by
  have nonzero := r.step_ne_zero
  by_cases none : k = 0
  · subst none
    simp [length, h]
  · have some : 0 < k := Nat.pos_of_ne_zero none
    by_cases up : 0 < r.step
    · have ahead : 0 < (k : Int) * r.step := Int.mul_pos (by omega) up
      have width : r.stop - r.start - 1 = k * r.step - 1 := by omega
      rw [length, if_pos up, if_pos (by omega), width, steps_counted up k some]
    · -- downwards, the steps are as wide as those of the opposite order
      have back : 0 < (k : Int) * -r.step := Int.mul_pos (by omega) (by omega)
      have flip : (k : Int) * -r.step = -(k * r.step) := Int.mul_neg _ _
      have width : r.start - r.stop - 1 = k * -r.step - 1 := by omega
      rw [length, if_neg up, if_pos (by omega), width, steps_counted (by omega) k some]

theorem length_drop (r : Progression) (n : Nat) : (r.drop n).length = r.length - n := by
  apply length_of_stop
  show r.get r.length = r.get (min n r.length) + ((r.length - n : Nat) : Int) * r.step
  have split : r.length = min n r.length + (r.length - n) := by omega
  rw [get, get, Int.add_assoc, ← Int.add_mul, ← Int.natCast_add, ← split]

theorem length_take (r : Progression) (n : Nat) : (r.take n).length = min n r.length :=
  length_of_stop rfl

theorem length_reverse (r : Progression) : r.reverse.length = r.length := by
  apply length_of_stop
  show r.start - r.step = r.start + (r.length - 1 : Int) * r.step + (r.length : Int) * -r.step
  rw [Int.mul_neg, Int.sub_mul]
  omega

/-! ## Section 2: Slices -/

@[simp] theorem length_members (r : Progression) : r.members.length = r.length := by
  simp [members]

theorem getElem_members (r : Progression) {i : Nat} (h : i < r.members.length) :
    r.members[i] = r.get i := by
  simp [members]

theorem getElem?_members (r : Progression) {i : Nat} (h : i < r.length) :
    r.members[i]? = some (r.get i) := by
  rw [List.getElem?_eq_getElem (by simpa using h), getElem_members]

theorem members_eq_nil_iff {r : Progression} : r.members = [] ↔ r.length = 0 := by
  rw [← List.length_eq_zero_iff, length_members]

/-- Two lists of members are equal when they are equally long and have the
    same member at every position. -/
theorem members_eq {r : Progression} {ns : List Int} (length : r.length = ns.length)
    (get : ∀ i (h : i < ns.length), r.get i = ns[i]) : r.members = ns := by
  apply List.ext_getElem
  · rw [length_members, length]
  · intro i _ h
    rw [getElem_members, get i h]

theorem members_drop (r : Progression) (n : Nat) : (r.drop n).members = r.members.drop n := by
  apply members_eq
  · simp [length_drop]
  · intro i h
    have inside : n + i < r.length := by
      simp at h
      omega
    simp only [List.getElem_drop, getElem_members]
    show r.get (min n r.length) + i * r.step = r.get (n + i)
    rw [Nat.min_eq_left (by omega), get, get, Int.natCast_add, Int.add_mul, Int.add_assoc]

theorem members_take (r : Progression) (n : Nat) : (r.take n).members = r.members.take n := by
  apply members_eq
  · simp [length_take]
  · intro i h
    simp only [List.getElem_take, getElem_members]
    rfl

theorem members_reverse (r : Progression) : r.reverse.members = r.members.reverse := by
  apply members_eq
  · simp [length_reverse]
  · intro i h
    have inside : i < r.length := by simpa using h
    have mirrored : ((r.length - 1 - i : Nat) : Int) = (r.length - 1 : Int) - i := by omega
    simp only [List.getElem_reverse, getElem_members, length_members]
    show r.start + (r.length - 1 : Int) * r.step + i * -r.step = r.get (r.length - 1 - i)
    rw [get, mirrored, Int.sub_mul (r.length - 1 : Int), Int.mul_neg]
    omega

/-! ## Section 3: Membership -/

/-- The members are the integers a whole number of steps behind the start, of
    which there are as many as the length says. -/
theorem mem_members_iff {r : Progression} {n : Int} :
    n ∈ r.members ↔ ∃ i, i < r.length ∧ r.get i = n := by
  simp [members]

/-- A position has a member exactly if the steps up to it do not reach the stop,
    on the side that the steps go to. -/
theorem lt_length_iff (r : Progression) (k : Nat) :
    k < r.length ↔ if 0 < r.step then r.get k < r.stop else r.stop < r.get k := by
  have nonzero := r.step_ne_zero
  -- upwards and downwards alike, by the division that the length is computed with
  by_cases up : 0 < r.step
  · have further : 0 ≤ (k : Int) * r.step := Int.mul_nonneg (by omega) (by omega)
    rw [length, if_pos up, if_pos up, get]
    by_cases ahead : r.start < r.stop
    · rw [if_pos ahead, Int.lt_toNat, Int.lt_add_one_iff, Int.le_ediv_iff_mul_le up]
      omega
    · rw [if_neg ahead]
      omega
  · have further : 0 ≤ (k : Int) * -r.step := Int.mul_nonneg (by omega) (by omega)
    rw [Int.mul_neg] at further
    rw [length, if_neg up, if_neg up, get]
    by_cases ahead : r.stop < r.start
    · rw [if_pos ahead, Int.lt_toNat, Int.lt_add_one_iff, Int.le_ediv_iff_mul_le (by omega),
        Int.mul_neg]
      omega
    · rw [if_neg ahead]
      omega

/-- A number of steps is not negative exactly if they lead away from the start,
    to the side that the steps go to. -/
theorem nonneg_iff (r : Progression) (k : Int) :
    0 ≤ k ↔ if 0 < r.step then r.start ≤ r.start + k * r.step
      else r.start + k * r.step ≤ r.start := by
  have nonzero := r.step_ne_zero
  by_cases up : 0 < r.step
  · rw [if_pos up, ← Int.mul_nonneg_iff_of_pos_right up]
    omega
  · have down : 0 < -r.step := by omega
    rw [if_neg up, ← Int.mul_nonneg_iff_of_pos_right down, Int.mul_neg]
    omega

/-- Membership is decided by the remainder of a division and the two ends. -/
theorem mem_iff (r : Progression) (n : Int) : r.mem n = true ↔ n ∈ r.members := by
  have ends : r.mem n = true ↔ r.step ∣ n - r.start ∧
      (if 0 < r.step then r.start ≤ n else n ≤ r.start) ∧
      (if 0 < r.step then n < r.stop else r.stop < n) := by
    rw [mem, Bool.and_eq_true, decide_eq_true_eq, ← Int.dvd_iff_emod_eq_zero]
    by_cases up : 0 < r.step <;> simp [up]
  rw [ends, mem_members_iff]
  constructor
  · rintro ⟨⟨k, steps⟩, away, before⟩
    -- the number of steps is not negative, since `n` is on the side that the steps go to
    have reached : n = r.start + k * r.step := by
      rw [Int.mul_comm]
      omega
    subst reached
    obtain ⟨i, rfl⟩ := Int.eq_ofNat_of_zero_le ((r.nonneg_iff k).2 away)
    exact ⟨i, (r.lt_length_iff i).2 before, rfl⟩
  · rintro ⟨i, inside, rfl⟩
    refine ⟨⟨i, ?_⟩, (r.nonneg_iff i).1 (by omega), (r.lt_length_iff i).1 inside⟩
    rw [get, Int.mul_comm]
    omega

/-- Two progressions are the same exactly if they have the same members in the
    same order. -/
theorem same_iff (r s : Progression) : r.same s = true ↔ r.members = s.members := by
  simp only [same, Bool.and_eq_true, Bool.or_eq_true, decide_eq_true_eq]
  constructor
  · rintro ⟨length, alike⟩
    apply members_eq
    · rw [length, length_members]
    · intro i h
      rw [getElem_members]
      have inside : i < r.length := by simpa [length] using h
      -- no member has a position, or only the first has, or both steps are the same
      rcases alike with empty | ⟨start, single | step⟩
      · omega
      · have first : i = 0 := by omega
        simp [get, start, first]
      · rw [get, get, start, step]
  · intro members
    have length : r.length = s.length := by
      rw [← length_members r, members, length_members]
    have get (i : Nat) (h : i < r.length) : r.get i = s.get i := by
      have here := getElem?_members r h
      rw [members, getElem?_members s (length ▸ h)] at here
      exact (Option.some.inj here).symm
    refine ⟨length, ?_⟩
    by_cases empty : r.length = 0
    · exact .inl empty
    · have start : r.start = s.start := by simpa [Progression.get] using get 0 (by omega)
      refine .inr ⟨start, ?_⟩
      by_cases single : r.length = 1
      · exact .inl single
      · have second := get 1 (by omega)
        simp only [Progression.get] at second
        exact .inr (by omega)

end Stencil.Progression
