import Mathlib.Data.List.Basic
import Mathlib.Data.List.Perm.Basic
import Mathlib.Order.Lattice

/-! # Stable rearrangements

    Items are ordered by their keys.  A rearrangement is stable if, for each
    key, the items with this key stay in order.  Items with different keys
    may pass each other, and a list in ascending order is the only such
    rearrangement of any list. -/

namespace Stencil.Sorting

variable {α κ : Type} [LinearOrder κ] {key : α → κ}

/-! ## Section 1: Keeping the order within keys -/

/-- The items with a key, in order. -/
def withKey (key : α → κ) (k : κ) (items : List α) : List α :=
  items.filter fun a => key a = k

/-- Do two lists have the same items with each key, in the same order? -/
def Keeps (key : α → κ) (items out : List α) : Prop :=
  ∀ k, withKey key k out = withKey key k items

section

variable {as bs cs ds : List α} {a : α} {k : κ}

theorem withKey_append (as bs : List α) :
    withKey key k (as ++ bs) = withKey key k as ++ withKey key k bs :=
  List.filter_append as bs

theorem withKey_reverse (as : List α) : withKey key k as.reverse = (withKey key k as).reverse :=
  List.filter_reverse

theorem withKey_cons_self (a : α) (as : List α) :
    withKey key (key a) (a :: as) = a :: withKey key (key a) as :=
  List.filter_cons_of_pos (decide_eq_true rfl)

theorem mem_withKey : a ∈ withKey key k as ↔ a ∈ as ∧ key a = k := by
  simp [withKey]

theorem keeps_refl (as : List α) : Keeps key as as := fun _ => rfl

theorem Keeps.trans (h : Keeps key as bs) (later : Keeps key bs cs) : Keeps key as cs :=
  fun k => (later k).trans (h k)

theorem Keeps.append (h : Keeps key as bs) (h' : Keeps key cs ds) :
    Keeps key (as ++ cs) (bs ++ ds) := fun k => by
  rw [withKey_append, withKey_append, h k, h' k]

theorem Keeps.cons (a : α) (h : Keeps key as bs) : Keeps key (a :: as) (a :: bs) :=
  (keeps_refl [a]).append h

theorem Keeps.reverse (h : Keeps key as bs) : Keeps key as.reverse bs.reverse := fun k => by
  rw [withKey_reverse, withKey_reverse, h k]

theorem Keeps.mem_iff (h : Keeps key as bs) : a ∈ bs ↔ a ∈ as := by
  have same : a ∈ withKey key (key a) bs ↔ a ∈ withKey key (key a) as := by rw [h (key a)]
  simpa [mem_withKey] using same

theorem Keeps.perm (h : Keeps key as bs) : bs.Perm as := by
  classical
  rw [List.perm_iff_count]
  intro a
  have self : decide (key a = key a) = true := decide_eq_true rfl
  have counted (items : List α) : (withKey key (key a) items).count a = items.count a :=
    List.count_filter self
  rw [← counted, h (key a), counted]

/-- Items pass others with different keys. -/
theorem keeps_swap (apart : ∀ a ∈ as, ∀ b ∈ bs, key a ≠ key b) :
    Keeps key (as ++ bs) (bs ++ as) := fun k => by
  rw [withKey_append, withKey_append]
  by_cases none : withKey key k as = []
  · rw [none, List.append_nil, List.nil_append]
  · obtain ⟨a, ha⟩ := List.exists_mem_of_ne_nil _ none
    obtain ⟨member, same⟩ := mem_withKey.1 ha
    have others : withKey key k bs = [] := by
      rw [List.eq_nil_iff_forall_not_mem]
      intro b hb
      obtain ⟨member', same'⟩ := mem_withKey.1 hb
      exact apart a member b member' (same.trans same'.symm)
    rw [others, List.append_nil, List.nil_append]

theorem keeps_swap_cons (apart : ∀ b ∈ bs, key a ≠ key b) :
    Keeps key (bs ++ a :: as) (a :: (bs ++ as)) := by
  have passed : Keeps key (bs ++ [a]) ([a] ++ bs) := by
    refine keeps_swap fun b hb c hc => ?_
    rw [List.mem_singleton.1 hc]
    exact (apart b hb).symm
  have whole := passed.append (keeps_refl as)
  rwa [List.append_assoc] at whole

/-- A list with different keys may be turned around. -/
theorem keeps_reverse (apart : as.Pairwise fun a b => key a ≠ key b) :
    Keeps key as.reverse as := by
  induction as with
  | nil => exact keeps_refl []
  | cons a as ih =>
    obtain ⟨here, later⟩ := List.pairwise_cons.1 apart
    rw [List.reverse_cons]
    have passed : Keeps key (as.reverse ++ [a]) (a :: (as.reverse ++ [])) :=
      keeps_swap_cons fun b hb => here b (List.mem_reverse.1 hb)
    rw [List.append_nil] at passed
    exact passed.trans ((ih later).cons a)

end

/-! ## Section 2: Ascending order -/

/-- Is a list in ascending order? -/
def Ascends (key : α → κ) (items : List α) : Prop :=
  items.Pairwise fun a b => key a ≤ key b

theorem Ascends.le_last {items : List α} {a : α} (h : Ascends key items)
    (last : items.getLast? = some a) : ∀ b ∈ items, key b ≤ key a := by
  obtain ⟨front, rfl⟩ := List.getLast?_eq_some_iff.1 last
  intro b hb
  rcases List.mem_append.1 hb with member | member
  · exact (List.pairwise_append.1 h).2.2 b member a List.mem_cons_self
  · rw [List.mem_singleton.1 member]

theorem Ascends.head_le {items : List α} {a : α} (h : Ascends key (a :: items)) :
    ∀ b ∈ a :: items, key a ≤ key b := by
  rw [List.forall_mem_cons]
  exact ⟨le_refl _, (List.pairwise_cons.1 h).1⟩

theorem Ascends.take_le_drop {items : List α} (h : Ascends key items) (n : Nat) :
    ∀ a ∈ items.take n, ∀ b ∈ items.drop n, key a ≤ key b := by
  rw [Ascends, ← List.take_append_drop n items] at h
  exact (List.pairwise_append.1 h).2.2

/-- Only one rearrangement within keys is in ascending order. -/
theorem Keeps.eq_of_ascends {as bs : List α} (h : Keeps key as bs) (first : Ascends key as)
    (second : Ascends key bs) : bs = as := by
  induction as generalizing bs with
  | nil => exact List.eq_nil_iff_forall_not_mem.2 fun b hb => nomatch h.mem_iff.1 hb
  | cons a as ih =>
    have here := h.mem_iff.2 (List.mem_cons_self (a := a) (l := as))
    cases bs with
    | nil => cases here
    | cons b bs =>
      have among : b ∈ a :: as := h.mem_iff.1 List.mem_cons_self
      have same : key b = key a := le_antisymm (second.head_le a here) (first.head_le b among)
      -- both heads are the first item with their key
      have heads := h (key a)
      rw [withKey_cons_self, ← same, withKey_cons_self] at heads
      obtain ⟨rfl, -⟩ := List.cons.inj heads
      have tails : Keeps key as bs := by
        intro k
        have whole := h k
        rw [← List.singleton_append, ← List.singleton_append (l := as), withKey_append,
          withKey_append] at whole
        exact List.append_cancel_left whole
      rw [ih tails (List.pairwise_cons.1 first).2 (List.pairwise_cons.1 second).2]

/-- Is a list another one in ascending order, with items of one key in the
    order in which they have been? -/
structure Sorts (key : α → κ) (items out : List α) : Prop where
  ascends : Ascends key out
  keeps : Keeps key items out

section

variable {as bs items out : List α}

theorem Ascends.sorts (h : Ascends key as) : Sorts key as as :=
  ⟨h, keeps_refl as⟩

/-- A list may be rearranged within keys before it is sorted. -/
theorem Keeps.sorts (h : Keeps key as bs) (sorts : Sorts key bs out) : Sorts key as out :=
  ⟨sorts.ascends, h.trans sorts.keeps⟩

/-- Sorting what is sorted changes nothing. -/
theorem Sorts.eq_of_ascends (h : Sorts key items out) (sorted : Ascends key items) :
    out = items :=
  h.keeps.eq_of_ascends sorted h.ascends

end

end Stencil.Sorting
