import Stencil.Proofs.Value.Outcome
import Stencil.Sorting.Search

/-! # Searching finds where a property ends

    Whichever middles are probed, and however long the strides are, the
    search comes to the one index at which a property ends.  In a sorted
    list a property of the order divides the items so. -/

namespace Stencil.Sorting

variable {ε : Type}

/-! ## Section 1: Indices -/

section

variable {probe : Nat → Except ε Bool} {stop : Nat}

/-- Does the property that a probe tells of end at this index? -/
def EndsAt (probe : Nat → Except ε Bool) (stop : Nat) : Prop :=
  ∀ i, probe i = .ok (decide (i < stop))

theorem middle_lt (upper : Bool) {low high : Nat} (some : low < high) :
    low + (high - low - (if upper then 0 else 1)) / 2 < high := by
  have half : (high - low - (if upper then 0 else 1)) / 2 ≤ (high - low) / 2 :=
    Nat.div_le_div_right (Nat.sub_le _ _)
  omega

theorem halve_eq (h : EndsAt probe stop) (upper : Bool) {low high : Nat} (above : low ≤ stop)
    (below : stop ≤ high) : halve upper probe low high = .ok stop := by
  fun_induction halve upper probe low high with
  | case1 low high less middle ihFound ihMissing =>
    rw [h middle]
    show (if decide (middle < stop) = true then _ else _) = _
    have inside : middle < high := middle_lt upper less
    -- the end lies behind a place that holds, and not behind one that does not
    by_cases found : middle < stop
    · rw [if_pos (decide_eq_true found)]
      exact ihFound found below
    · rw [if_neg (by simpa using found)]
      exact ihMissing above (by omega)
  | case2 low high notLess =>
    congr 1
    omega

/-- The strides pass over the end. -/
theorem exists_stride (h : EndsAt probe stop) {length last : Nat} (next : Nat)
    (below : stop ≤ length) (held : last < stop) : ∃ last' next', stride probe length last next = .ok (last', next') ∧
      last' < stop ∧ stop ≤ next' := by
  fun_induction stride probe length last next with
  | case1 last next less ih =>
    rw [h next]
    show ∃ last' next', (if decide (next < stop) = true then _ else _) = _ ∧ _
    by_cases found : next < stop
    · rw [if_pos (decide_eq_true found)]
      exact ih found
    · rw [if_neg (by simpa using found)]
      exact ⟨last, next, rfl, held, by omega⟩
  | case2 last next notLess => exact ⟨last, length, rfl, held, below⟩

theorem gallop_eq (h : EndsAt probe stop) (upper : Bool) {length : Nat} (below : stop ≤ length) :
    gallop upper probe length = .ok stop := by
  rw [gallop, h 0]
  show (if decide (0 < stop) = true then _ else _) = _
  by_cases held : 0 < stop
  · obtain ⟨last, next, strode, above, behind⟩ := exists_stride h 1 below held
    rw [if_pos (decide_eq_true held), strode]
    exact halve_eq h upper above behind
  · rw [if_neg (by simpa using held)]
    show Except.ok 0 = .ok stop
    congr 1
    omega

end

/-! ## Section 2: Items -/

section

variable {α : Type} {holds : α → Except ε Bool} {p : α → Bool} {items : List α}

/-- Does a property, once it does not hold, never hold again in a list? -/
def Fades (p : α → Bool) (items : List α) : Prop :=
  items.Pairwise fun a b => p b = true → p a = true

theorem Fades.iff_lt_countP (h : Fades p items) {i : Nat} {a : α} (found : items[i]? = some a) :
    p a = true ↔ i < items.countP p := by
  induction items generalizing i with
  | nil => cases found
  | cons b items ih =>
    obtain ⟨here, later⟩ := List.pairwise_cons.1 h
    by_cases held : p b = true
    · rw [List.countP_cons_of_pos held]
      cases i with
      | zero =>
        cases found
        exact iff_of_true held (Nat.succ_pos _)
      | succ i => rw [ih later found, Nat.succ_lt_succ_iff]
    -- nothing holds any more behind an item that does not
    · have none : items.countP p = 0 :=
        List.countP_eq_zero.2 fun c hc again => held (here c hc again)
      rw [List.countP_cons_of_neg held, none]
      refine iff_of_false (fun again => held ?_) (Nat.not_lt_zero i)
      rcases List.mem_cons.1 (List.mem_of_getElem? found) with rfl | member
      · exact again
      · exact here a member again

/-- A probe of the items of a list ends where the property does. -/
theorem endsAt_probeOf (fades : Fades p items) (asks : ∀ a ∈ items, holds a = .ok (p a)) :
    EndsAt (probeOf holds items) (items.countP p) := by
  intro i
  unfold probeOf
  cases found : items[i]? with
  | none =>
    have past := List.getElem?_eq_none_iff.1 found
    have bound : items.countP p ≤ items.length := List.countP_le_length
    rw [decide_eq_false (by omega)]
  | some a =>
    show holds a = _
    rw [asks a (List.mem_of_getElem? found)]
    congr 1
    rw [Bool.eq_iff_iff, decide_eq_true_iff]
    exact fades.iff_lt_countP found

/-- Does a number divide a list into items with a property and items without
    it? -/
structure Divides (p : α → Bool) (items : List α) (n : Nat) : Prop where
  le_length : n ≤ items.length
  of_mem_take : ∀ a ∈ items.take n, p a = true
  of_mem_drop : ∀ a ∈ items.drop n, p a = false

theorem Fades.divides (h : Fades p items) : Divides p items (items.countP p) where
  le_length := List.countP_le_length
  of_mem_take := fun a ha => by
    obtain ⟨i, found⟩ := List.mem_iff_getElem?.1 ha
    rw [List.getElem?_take] at found
    split at found
    next inside => exact (h.iff_lt_countP found).2 inside
    next => cases found
  of_mem_drop := fun a ha => by
    obtain ⟨i, found⟩ := List.mem_iff_getElem?.1 ha
    rw [List.getElem?_drop] at found
    rw [← Bool.not_eq_true, h.iff_lt_countP found]
    omega

variable {err : ε → Prop}

theorem leading_divides (fades : Fades p items) (asks : ∀ a ∈ items, holds a = .ok (p a))
    (upper : Bool) : Meets (Divides p items) err (leading upper holds items) := by
  rw [leading, gallop_eq (endsAt_probeOf fades asks) upper List.countP_le_length]
  exact .ok fades.divides

theorem halve_divides (fades : Fades p items) (asks : ∀ a ∈ items, holds a = .ok (p a))
    (upper : Bool) :
    Meets (Divides p items) err (halve upper (probeOf holds items) 0 items.length) := by
  rw [halve_eq (endsAt_probeOf fades asks) upper (Nat.zero_le _) List.countP_le_length]
  exact .ok fades.divides

end

end Stencil.Sorting
