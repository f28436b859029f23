import Stencil.Proofs.Sorting.Merge
import Stencil.Proofs.Sorting.Permutation

/-! # Sorting orders stably

    Where a comparison compares keys, the sorting ends, and what it gives
    is the list in ascending order, with items of one key in the order in
    which they have been.  Every stage keeps that order: a run is turned
    around only if it descends strictly, an item is inserted behind all that
    do not come after it, and only neighbours on the pile are merged.  Which
    of them are merged, and when, makes no difference. -/

namespace Stencil.Sorting

variable {α ε κ : Type} [LinearOrder κ] {key : α → κ} {D : α → Prop}
  {before : α → α → Except ε Bool}

/-! ## Section 1: Natural runs -/

/-- Does a list, the latest item first, ascend or else descend strictly? -/
def Runs (key : α → κ) (descending : Bool) (taken : List α) : Prop :=
  taken.Pairwise fun a b => decide (key a < key b) = descending

theorem Runs.cons {descending : Bool} {a last : α} {taken : List α}
    (h : Runs key descending (last :: taken))
    (goes : decide (key a < key last) = descending) : Runs key descending (a :: last :: taken) := by
  refine List.pairwise_cons.2 ⟨?_, h⟩
  rw [List.forall_mem_cons]
  refine ⟨goes, fun b hb => ?_⟩
  have before := (List.pairwise_cons.1 h).1 b hb
  cases descending with
  | true => exact decide_eq_true ((of_decide_eq_true goes).trans (of_decide_eq_true before))
  | false =>
    rw [decide_eq_false_iff_not, not_lt] at goes before ⊢
    exact before.trans goes

/-- A run, in ascending order, is the items that have been taken. -/
theorem Runs.sorts {descending : Bool} {taken : List α} (h : Runs key descending taken) :
    Sorts key taken.reverse (if descending then taken else taken.reverse) := by
  cases descending with
  | true =>
    have strict : taken.Pairwise fun a b => key a < key b :=
      h.imp fun less => of_decide_eq_true less
    exact ⟨strict.imp le_of_lt, keeps_reverse (strict.imp ne_of_lt)⟩
  | false =>
    have ascends : Ascends key taken.reverse := by
      refine List.pairwise_reverse.2 (h.imp fun {a b} goes => ?_)
      rwa [decide_eq_false_iff_not, not_lt] at goes
    exact ascends.sorts

/-- Are two parts of a list a run of the items at its head, and the others? -/
def Heads (key : α → κ) (items : List α) (r : List α × List α) : Prop :=
  ∃ front, items = front ++ r.2 ∧ Sorts key front r.1

section

variable (h : Compares before key D)
include h

theorem takeRun_runs {descending : Bool} {taken : List α} {last : α} {items : List α}
    (runs : Runs key descending (last :: taken)) (valid : D last) (others : ∀ a ∈ items, D a) :
    Meets (fun r : List α × List α => Runs key descending r.1 ∧
        (last :: taken).reverse ++ items = r.1.reverse ++ r.2) (fun _ => False)
      (takeRun before descending (last :: taken) last items) := by
  -- an item is taken as long as it goes the same way as the two in front of it
  induction items generalizing taken last with
  | nil => exact .ok ⟨runs, rfl⟩
  | cons a items ih =>
    rw [List.forall_mem_cons] at others
    rw [takeRun, h a last others.1 valid]
    show Meets _ _ (if decide (key a < key last) = descending then _ else _)
    split
    next goes =>
      refine (ih (runs.cons goes) others.1 others.2).imp fun r taken => ⟨taken.1, ?_⟩
      rw [← taken.2]
      simp
    next => exact .ok ⟨runs, rfl⟩

theorem headRun_heads {items : List α} (valid : ∀ a ∈ items, D a) :
    Meets (Heads key items) (fun _ => False) (headRun before items) := by
  unfold headRun
  split
  next a b rest =>
    rw [List.forall_mem_cons, List.forall_mem_cons] at valid
    rw [h b a valid.2.1 valid.1]
    show Meets _ _ (takeRun before (decide (key b < key a)) [b, a] b rest >>= _)
    have two : Runs key (decide (key b < key a)) [b, a] := by simp [Runs]
    refine Meets.bind (takeRun_runs h two valid.2.1 valid.2.2) fun r taken => .ok ?_
    exact ⟨r.1.reverse, taken.2, taken.1.sorts⟩
  next other =>
    refine .ok ⟨items, (List.append_nil items).symm, Ascends.sorts ?_⟩
    match items with
    | [] => exact List.Pairwise.nil
    | [a] => exact List.pairwise_singleton _ a
    | a :: b :: rest => exact (other a b rest rfl).elim

/-! ## Section 2: Insertion -/

theorem insert_sorts {sorted : List α} {a : α} (run : IsRun key D sorted) (valid : D a) :
    Meets (Sorts key (sorted ++ [a])) (fun _ => False) (insert before sorted a) := by
  -- the search asks each item whether the new one does not come in front of it
  have asks : ∀ b ∈ sorted, (do return !(← before a b)) = .ok (!decide (key a < key b)) := by
    intro b hb
    rw [h a b valid (run.valid b hb)]
    rfl
  have fades : Fades (fun b => !decide (key a < key b)) sorted := by
    refine run.ascends.imp fun {b c} le stays => ?_
    rw [Bool.not_eq_true', decide_eq_false_iff_not, not_lt] at stays ⊢
    exact le.trans stays
  refine Meets.bind (halve_divides fades asks true) fun i divides => .ok ?_
  have below : ∀ b ∈ sorted.take i, key b ≤ key a := by
    intro b hb
    simpa using divides.of_mem_take b hb
  have above : ∀ b ∈ sorted.drop i, key a < key b := by
    intro b hb
    simpa using divides.of_mem_drop b hb
  -- what is ordered here is the items in front, the new one and those behind
  refine ⟨List.pairwise_append.2 ⟨run.ascends.sublist (List.take_sublist i sorted),
    List.pairwise_cons.2 ⟨fun b hb => (above b hb).le,
      run.ascends.sublist (List.drop_sublist i sorted)⟩, ?_⟩, ?_⟩
  · intro b hb
    rw [List.forall_mem_cons]
    exact ⟨below b hb, run.ascends.take_le_drop i b hb⟩
  · -- the item passes those that come after it
    have passes : Keeps key (sorted.drop i ++ [a]) ([a] ++ sorted.drop i) := by
      refine keeps_swap fun b hb c hc => ?_
      rw [List.mem_singleton.1 hc]
      exact (above b hb).ne'
    have whole := (keeps_refl (sorted.take i)).append passes
    rwa [← List.append_assoc, List.take_append_drop] at whole

theorem insertAll_sorts {sorted items : List α} (run : IsRun key D sorted)
    (valid : ∀ a ∈ items, D a) :
    Meets (Sorts key (sorted ++ items)) (fun _ => False) (insertAll before sorted items) := by
  induction items generalizing sorted with
  | nil =>
    refine .ok ?_
    rw [List.append_nil]
    exact run.ascends.sorts
  | cons a items ih =>
    rw [List.forall_mem_cons] at valid
    refine Meets.bind (insert_sorts h run valid.1) fun inserted sorts => ?_
    -- the next item is put into a run of the items so far
    have among : ∀ b ∈ sorted ++ [a], D b := by
      rw [List.forall_mem_append, List.forall_mem_singleton]
      exact ⟨run.valid, valid.1⟩
    refine (ih (sorts.isRun among) valid.2).imp fun out all => ?_
    have keeps := sorts.keeps.append (keeps_refl items)
    rw [List.append_assoc] at keeps
    exact keeps.sorts all

theorem nextRun_heads (least : Nat) {items : List α} (valid : ∀ a ∈ items, D a) :
    Meets (Heads key items) (fun _ => False) (nextRun before least items) := by
  refine Meets.bind (headRun_heads h valid) fun r heads => ?_
  obtain ⟨front, rfl, sorts⟩ := heads
  rw [List.forall_mem_append] at valid
  have taken : ∀ a ∈ r.2.take (least - r.1.length), D a :=
    fun a ha => valid.2 a (List.mem_of_mem_take ha)
  refine Meets.bind (insertAll_sorts h (sorts.isRun valid.1) taken) fun out all => .ok ?_
  refine ⟨front ++ r.2.take (least - r.1.length), ?_, (sorts.keeps.append (keeps_refl _)).sorts all⟩
  rw [List.append_assoc, List.take_append_drop]

/-! ## Section 3: Sorting -/

omit h in
/-- Are runs, the latest first, in ascending order, and do they and the items
    that are left keep the order of some items? -/
structure Progress (key : α → κ) (D : α → Prop) (items left : List α) (runs : List (List α)) :
    Prop where
  isRun : ∀ run ∈ runs, IsRun key D run
  valid : ∀ a ∈ left, D a
  keeps : Keeps key items (runs.reverse.flatten ++ left)

omit h in
/-- Two neighbours may be put together. -/
theorem keeps_flatten {as bs merged : List α} (latest rest : List (List α))
    (h : Keeps key (as ++ bs) merged) : Keeps key (latest ++ bs :: as :: rest).reverse.flatten
      (latest ++ merged :: rest).reverse.flatten := by
  have before := (keeps_refl rest.reverse.flatten).append h
  simpa using before.append (keeps_refl latest.reverse.flatten)

theorem maintains_progress (items : List α) :
    Maintains before (fun _ => False) (Progress key D items) where
  next least runs _ given := by
    obtain ⟨isRun, valid, keeps⟩ := given
    refine (nextRun_heads h least valid).imp fun r heads => ?_
    obtain ⟨taken, rfl, sorts⟩ := heads
    rw [List.forall_mem_append] at valid
    refine ⟨List.forall_mem_cons.2 ⟨sorts.isRun valid.1, isRun⟩, valid.2, keeps.trans ?_⟩
    have ordered := (keeps_refl runs.reverse.flatten).append (sorts.keeps.append (keeps_refl r.2))
    simpa using ordered
  merge latest rest patience given := by
    obtain ⟨isRun, valid, keeps⟩ := given
    rw [List.forall_mem_append, List.forall_mem_cons, List.forall_mem_cons] at isRun
    -- of two neighbours on the pile, the one below is the earlier run
    obtain ⟨others, second, first, behind⟩ := isRun
    refine (merge_sorts h patience first second).imp fun m sorts => ⟨?_, valid, ?_⟩
    · have merged : IsRun key D m.items :=
        sorts.isRun (List.forall_mem_append.2 ⟨first.valid, second.valid⟩)
      exact List.forall_mem_append.2 ⟨others, List.forall_mem_cons.2 ⟨merged, behind⟩⟩
    · exact keeps.trans ((keeps_flatten latest rest sorts.keeps).append (keeps_refl _))

/-- Sorting orders stably. -/
theorem sort_sorts {items : List α} (valid : ∀ a ∈ items, D a) :
    ∃ out, sort before items = .ok out ∧ Sorts key items out := by
  have start : Progress key D items items [] := ⟨nofun, valid, keeps_refl items⟩
  apply Meets.exists_ok
  refine (sort_maintains (maintains_progress h items) start).imp fun out ends => ?_
  -- one run is left, or there have been no items
  rcases ends with ⟨isRun, -, keeps⟩ | ⟨rfl, -, -, keeps⟩
  · exact ⟨(isRun out List.mem_cons_self).ascends, by simpa using keeps⟩
  · exact ⟨List.Pairwise.nil, keeps⟩

end

end Stencil.Sorting
