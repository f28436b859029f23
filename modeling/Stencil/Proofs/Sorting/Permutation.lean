import Stencil.Proofs.Value.Outcome
import Stencil.Sorting.Runs

/-! # Sorting rearranges

    Whatever the comparison says, each step of the sorting only moves items
    about: what it gives is a permutation of what it is given.  A fault of
    the sorting is a fault of one of the comparisons.  Which runs are merged,
    and when, makes no difference to what all steps maintain. -/

namespace Stencil.Sorting

variable {α ε : Type} {err : ε → Prop} {before : α → α → Except ε Bool}

/-! ## Section 1: Searching -/

section

variable {probe : Nat → Except ε Bool}

theorem halve_meets (h : ∀ i, Meets (fun _ => True) err (probe i)) (upper : Bool)
    (low high : Nat) : Meets (fun _ => True) err (halve upper probe low high) := by
  fun_induction halve upper probe low high with
  | case1 low high less middle ihFound ihMissing =>
    refine Meets.bind (h _) fun found _ => ?_
    split
    · exact ihFound
    · exact ihMissing
  | case2 low high notLess => exact .ok trivial

theorem stride_meets (h : ∀ i, Meets (fun _ => True) err (probe i)) (length last next : Nat) :
    Meets (fun _ => True) err (stride probe length last next) := by
  fun_induction stride probe length last next with
  | case1 last next less ih =>
    refine Meets.bind (h _) fun found _ => ?_
    split
    · exact ih
    · exact .ok trivial
  | case2 last next notLess => exact .ok trivial

theorem gallop_meets (h : ∀ i, Meets (fun _ => True) err (probe i)) (upper : Bool)
    (length : Nat) : Meets (fun _ => True) err (gallop upper probe length) := by
  refine Meets.bind (h 0) fun found _ => ?_
  split
  · exact Meets.bind (stride_meets h _ _ _) fun _ _ => halve_meets h _ _ _
  · exact .ok trivial

end

theorem probeOf_meets {holds : α → Except ε Bool} (h : ∀ a, Meets (fun _ => True) err (holds a))
    (items : List α) (i : Nat) : Meets (fun _ => True) err (probeOf holds items i) := by
  unfold probeOf
  split
  · exact h _
  · exact .ok trivial

theorem leading_meets {holds : α → Except ε Bool} (h : ∀ a, Meets (fun _ => True) err (holds a))
    (upper : Bool) (items : List α) :
    Meets (fun _ => True) err (leading upper holds items) :=
  gallop_meets (probeOf_meets h items) _ _

/-! ## Section 2: Merging -/

section

variable (h : ∀ a b, Meets (fun _ => True) err (before a b))

include h

theorem firstLeaves_meets (e : End) (a b : α) :
    Meets (fun _ => True) err (e.firstLeaves before a b) :=
  Meets.bind (h b a) fun _ _ => .ok trivial

omit h in
theorem orient_perm (e : End) (items : List α) : (e.orient items).Perm items := by
  cases e with
  | front => exact .refl _
  | back => exact List.reverse_perm items

omit h in
theorem rest_perm (e : End) (as bs : List α) : (e.rest as bs).Perm (as ++ bs) := by
  cases e with
  | front => exact List.perm_append_comm
  | back => exact .refl _

/-- Does a merge give out the items that have left and those that are left? -/
def Merged.Holds (out as bs : List α) (m : Merged α) : Prop :=
  m.items.Perm (out ++ (as ++ bs))

omit h in
theorem settled_holds (e : End) (patience : Nat) (out as bs : List α) :
    (settled e patience out as bs).Holds out as bs :=
  (List.reverse_perm out).append (rest_perm e as bs)

section

variable {out as bs : List α} {m : Merged α}

omit h in
/-- An item of the first run that has left was in the first run. -/
theorem Merged.Holds.first {a : α} (holds : m.Holds (a :: out) as bs) :
    m.Holds out (a :: as) bs :=
  List.Perm.trans holds List.perm_middle.symm

omit h in
/-- An item of the second run that has left was in the second run. -/
theorem Merged.Holds.second {b : α} (holds : m.Holds (b :: out) as bs) :
    m.Holds out as (b :: bs) := by
  refine List.Perm.trans holds ?_
  rw [← List.append_assoc, ← List.append_assoc]
  exact List.perm_middle.symm

omit h in
/-- A stretch of the first run that has left was in the first run. -/
theorem Merged.Holds.takeFirst {n : Nat}
    (holds : m.Holds ((as.take n).reverse ++ out) (as.drop n) bs) : m.Holds out as bs := by
  refine List.Perm.trans holds ?_
  calc (as.take n).reverse ++ out ++ (as.drop n ++ bs)
      _ |>.Perm (out ++ (as.take n).reverse ++ (as.drop n ++ bs)) :=
        List.perm_append_comm.append_right _
      _ |>.Perm (out ++ as.take n ++ (as.drop n ++ bs)) :=
        ((List.reverse_perm _).append_left out).append_right _
      _ = out ++ (as ++ bs) := by
        rw [List.append_assoc, ← List.append_assoc (as.take n), List.take_append_drop]

omit h in
/-- A stretch of the second run that has left was in the second run. -/
theorem Merged.Holds.takeSecond {n : Nat}
    (holds : m.Holds ((bs.take n).reverse ++ out) as (bs.drop n)) : m.Holds out as bs := by
  refine List.Perm.trans holds ?_
  calc (bs.take n).reverse ++ out ++ (as ++ bs.drop n)
      _ |>.Perm (out ++ (bs.take n).reverse ++ (as ++ bs.drop n)) :=
        List.perm_append_comm.append_right _
      _ |>.Perm (out ++ bs.take n ++ (as ++ bs.drop n)) :=
        ((List.reverse_perm _).append_left out).append_right _
      _ = out ++ (bs.take n ++ (as ++ bs.drop n)) := List.append_assoc _ _ _
      _ |>.Perm (out ++ (as ++ (bs.take n ++ bs.drop n))) :=
        (List.perm_append_comm_assoc _ _ _).append_left out
      _ = out ++ (as ++ bs) := by rw [List.take_append_drop]

end

mutual

theorem alternate_meets (e : End) (patience wonFirst wonSecond : Nat) (out as bs : List α) :
    Meets (Merged.Holds out as bs) err
      (alternate e before patience wonFirst wonSecond out as bs) := by
  rw [alternate.eq_def]
  split
  · exact .ok (settled_holds e patience out as bs)
  · split
    · exact inStretches_meets e (patience + 1) out as bs
    · split
      next a as b bs _ =>
        refine Meets.bind (firstLeaves_meets h e a b) fun leaves _ => ?_
        split
        · have rest := alternate_meets e patience (wonFirst + 1) 0 (a :: out) as (b :: bs)
          exact rest.imp fun _ holds => holds.first
        · have rest := alternate_meets e patience 0 (wonSecond + 1) (b :: out) (a :: as) bs
          exact rest.imp fun _ holds => holds.second
      next => exact .ok (settled_holds e patience out _ _)
termination_by 2 * (as.length + bs.length) + 1

theorem inStretches_meets (e : End) (patience : Nat) (out as bs : List α) :
    Meets (Merged.Holds out as bs) err (inStretches e before patience out as bs) := by
  cases bs with
  | nil =>
    rw [inStretches]
    exact .ok (settled_holds e patience out as [])
  | cons b bs =>
    rw [inStretches]
    refine Meets.bind (leading_meets (fun a => firstLeaves_meets h e a b) _ _) fun m _ => ?_
    split
    · exact .ok (settled_holds e _ _ _ _).takeFirst
    · split
      · exact .ok (settled_holds e _ _ _ _).second.takeFirst
      · split
        next left =>
          -- the first side is used up, and the head of the second one has followed
          have back {merged : Merged α}
              (holds : merged.Holds (b :: ((as.take m).reverse ++ out)) [] bs) :
              merged.Holds out as (b :: bs) := by
            rw [← left] at holds
            exact holds.second.takeFirst
          exact .ok (back (settled_holds e _ _ _ _))
        next a rest left =>
          have back {merged : Merged α} {n : Nat}
              (holds : merged.Holds ((bs.take n).reverse ++ b :: ((as.take m).reverse ++ out))
                (a :: rest) (bs.drop n)) : merged.Holds out as (b :: bs) := by
            have taken := holds.takeSecond
            rw [← left] at taken
            exact taken.second.takeFirst
          have wins (b : α) : Meets (fun _ => True) err
              (do return !(← e.firstLeaves before a b)) :=
            Meets.bind (firstLeaves_meets h e a b) fun _ _ => .ok trivial
          -- at least `a` is gone from the first side, whatever `m` and `n` are
          have shorter : rest.length < as.length := by
            have length := congrArg List.length left
            simp only [List.length_drop, List.length_cons] at length
            omega
          refine Meets.bind (leading_meets wins _ _) fun n _ => ?_
          split
          · exact .ok (back (settled_holds e _ _ _ _))
          · split
            · exact .ok (back (settled_holds e _ _ _ _).first)
            · split
              · have later := inStretches_meets e (if 1 < patience then patience - 1 else patience)
                  (a :: ((bs.take n).reverse ++ b :: ((as.take m).reverse ++ out))) rest (bs.drop n)
                exact later.imp fun _ holds => back holds.first
              · have later := alternate_meets e
                  ((if 1 < patience then patience - 1 else patience) + 1) 0 0
                  (a :: ((bs.take n).reverse ++ b :: ((as.take m).reverse ++ out))) rest (bs.drop n)
                exact later.imp fun _ holds => back holds.first
termination_by 2 * (as.length + bs.length)
decreasing_by
  all_goals
    simp only [List.length_drop, List.length_cons]
    omega

end

theorem mergeFrom_meets (e : End) (patience : Nat) (as bs : List α) :
    Meets (fun m : Merged α => m.items.Perm (as ++ bs)) err
      (mergeFrom e before patience as bs) := by
  -- merging from the back is merging the reversed runs
  have back {m : Merged α} (holds : m.items.Perm (e.orient as ++ e.orient bs)) :
      (e.orient m.items).Perm (as ++ bs) :=
    (orient_perm e _).trans (holds.trans ((orient_perm e as).append (orient_perm e bs)))
  unfold mergeFrom
  dsimp only
  split
  next b bs' second =>
    rw [second] at back
    refine Meets.bind (alternate_meets h .front patience 0 0 [b] _ bs') fun m holds => ?_
    exact .ok (back holds.second)
  next a as' first =>
    rw [first] at back
    refine Meets.bind (alternate_meets h .back patience 0 0 [a] as' _) fun m holds => ?_
    exact .ok (back holds.first)
  next => exact .ok (back (settled_holds _ patience [] _ _))

omit h in
/-- The middle of two lists may be rearranged. -/
theorem perm_around {as bs middle : List α} {m k : Nat}
    (holds : middle.Perm (as.drop m ++ bs.take k)) :
    (as.take m ++ middle ++ bs.drop k).Perm (as ++ bs) := by
  calc as.take m ++ middle ++ bs.drop k
      _ |>.Perm (as.take m ++ (as.drop m ++ bs.take k) ++ bs.drop k) :=
        (holds.append_left _).append_right _
      _ = as ++ bs := by
        rw [← List.append_assoc, List.take_append_drop, List.append_assoc, List.take_append_drop]

theorem merge_meets (patience : Nat) (as bs : List α) :
    Meets (fun m : Merged α => m.items.Perm (as ++ bs)) err (merge before patience as bs) := by
  unfold merge
  split
  · exact .ok (by simp)
  next b _ =>
    have stays (a : α) : Meets (fun _ => True) err (do return !(← before b a)) :=
      Meets.bind (h b a) fun _ _ => .ok trivial
    refine Meets.bind (leading_meets stays _ _) fun m _ => ?_
    split
    · exact .ok (.refl _)
    next a _ =>
      have stays (b : α) : Meets (fun _ => True) err (do return !(← before b a)) :=
        Meets.bind (h b a) fun _ _ => .ok trivial
      refine Meets.bind (leading_meets stays _ _) fun n _ => ?_
      dsimp only
      split
      · exact .ok (.refl _)
      · refine Meets.bind (mergeFrom_meets h _ _ _ _) fun merged holds => .ok ?_
        exact perm_around holds

/-! ## Section 3: Runs -/

/-- Does a list split into a run and the remaining items? -/
def Splits (items : List α) (r : List α × List α) : Prop :=
  (r.1 ++ r.2).Perm items ∧ (items ≠ [] → r.1 ≠ [])

theorem takeRun_meets (descending : Bool) (taken : List α) (last : α) (items : List α) :
    Meets (fun r : List α × List α => (r.1 ++ r.2).Perm (taken ++ items) ∧ (taken ≠ [] → r.1 ≠ []))
      err (takeRun before descending taken last items) := by
  induction items generalizing taken last with
  | nil => exact .ok ⟨.refl _, id⟩
  | cons a as ih =>
    refine Meets.bind (h a last) fun _ _ => ?_
    split
    · refine (ih (a :: taken) a).imp fun r holds => ⟨?_, fun _ => holds.2 ?_⟩
      · exact holds.1.trans List.perm_middle.symm
      · exact List.cons_ne_nil a taken
    · exact .ok ⟨.refl _, id⟩

theorem headRun_meets (items : List α) :
    Meets (Splits items) err (headRun before items) := by
  unfold headRun
  split
  next a b rest =>
    refine Meets.bind (h b a) fun descending _ => ?_
    refine Meets.bind (takeRun_meets h descending [b, a] b rest) fun r holds => ?_
    have given : (r.1 ++ r.2).Perm (a :: b :: rest) := holds.1.trans (.swap a b rest)
    -- a run takes two items at least, so that there is progress
    have some : r.1 ≠ [] := holds.2 (List.cons_ne_nil b [a])
    have turned : Splits (a :: b :: rest) (if descending then r.1 else r.1.reverse, r.2) := by
      split
      · exact ⟨given, fun _ => some⟩
      · refine ⟨((List.reverse_perm _).append_right _).trans given, fun _ => ?_⟩
        simpa using some
    exact .ok turned
  next => exact .ok ⟨by simp, id⟩

theorem insert_meets (sorted : List α) (a : α) :
    Meets (fun out => out.Perm (sorted ++ [a])) err (insert before sorted a) := by
  have stays (b : α) : Meets (fun _ => True) err (do return !(← before a b)) :=
    Meets.bind (h a b) fun _ _ => .ok trivial
  refine Meets.bind (halve_meets (probeOf_meets stays sorted) _ _ _) fun i _ => ?_
  have inserted : (sorted.take i ++ a :: sorted.drop i).Perm (sorted ++ [a]) :=
    calc sorted.take i ++ a :: sorted.drop i
      _ |>.Perm (a :: (sorted.take i ++ sorted.drop i)) := List.perm_middle
      _ = [a] ++ sorted := by rw [List.take_append_drop, List.singleton_append]
      _ |>.Perm (sorted ++ [a]) := List.perm_append_comm
  exact .ok inserted

theorem insertAll_meets (sorted items : List α) :
    Meets (fun out => out.Perm (sorted ++ items)) err (insertAll before sorted items) := by
  induction items generalizing sorted with
  | nil => exact .ok (by simp)
  | cons a as ih =>
    refine Meets.bind (insert_meets h sorted a) fun inserted holds => ?_
    refine (ih inserted).imp fun out all => all.trans ?_
    simpa using holds.append_right as

theorem nextRun_meets (least : Nat) (items : List α) :
    Meets (Splits items) err (nextRun before least items) := by
  refine Meets.bind (headRun_meets h items) fun r holds => ?_
  refine Meets.bind (insertAll_meets h _ _) fun out all => ?_
  have filled : Splits items (out, r.2.drop (least - r.1.length)) := by
    refine ⟨?_, fun some none => holds.2 some ?_⟩
    · refine (all.append_right _).trans ?_
      rw [List.append_assoc, List.take_append_drop]
      exact holds.1
    · have length := all.length_eq
      rw [show out = [] from none, List.length_append, List.length_nil] at length
      exact List.eq_nil_of_length_eq_zero (by omega)
  exact .ok filled

end

/-! ## Section 4: What sorting maintains -/

/-- Does a property of the items that are left, and of the runs that have been
    taken, the latest first, hold again whenever a run is taken from the items,
    and whenever two neighbours are merged? -/
structure Maintains (before : α → α → Except ε Bool) (err : ε → Prop)
    (holds : List α → List (List α) → Prop) : Prop where
  next : ∀ {items : List α} (least : Nat) (runs : List (List α)), items ≠ [] →
    holds items runs → Meets (fun r => holds r.2 (r.1 :: runs)) err (nextRun before least items)
  merge : ∀ {items second first : List α} (latest rest : List (List α)) (patience : Nat),
    holds items (latest ++ second :: first :: rest) →
    Meets (fun m : Merged α => holds items (latest ++ m.items :: rest)) err
      (merge before patience first second)

/-- The runs on a pile, without their levels. -/
def contents (runs : List (Pending α)) : List (List α) :=
  runs.map Pending.items

/-- Is a list the only run of all, or empty because there is none? -/
def IsOnly (holds : List α → List (List α) → Prop) (items out : List α) : Prop :=
  holds items [out] ∨ (out = [] ∧ holds items [])

section

variable {holds : List α → List (List α) → Prop} (h : Maintains before err holds)
  {items run : List α} {first second : Pending α} {rest runs : List (Pending α)}

include h

theorem join_maintains (latest : List (List α)) (patience : Nat)
    (given : holds items (latest ++ contents (second :: first :: rest))) :
    Meets (fun r : Pending α × Nat => holds items (latest ++ contents (r.1 :: rest))) err
      (first.join before patience second) :=
  Meets.bind (h.merge latest _ patience given) fun _ kept => .ok kept

theorem joinAbove_maintains (latest : List (List α)) (level patience : Nat)
    (given : holds items (latest ++ contents runs)) :
    Meets (fun pile : Pile α => holds items (latest ++ contents pile.runs)) err
      (joinAbove before level patience runs) := by
  fun_induction joinAbove before level patience runs with
  | case1 patience second first rest less ih =>
    refine Meets.bind (join_maintains h latest patience given) fun joined kept => ?_
    exact ih joined.1 joined.2 kept
  | case2 patience second first rest notLess => exact .ok given
  | case3 patience runs short => exact .ok given

theorem push_maintains (total start : Nat) {pile : Pile α}
    (given : holds items (run :: contents pile.runs)) :
    Meets (fun after : Pile α => holds items (contents after.runs)) err
      (pile.push before total start run) := by
  unfold Pile.push
  dsimp only
  split
  next empty =>
    rw [empty] at given
    exact .ok given
  next last rest _ =>
    refine Meets.bind (joinAbove_maintains h [run] _ _ given) fun joined kept => ?_
    split
    next empty =>
      rw [empty] at kept
      exact .ok kept
    next last rest hruns =>
      rw [hruns] at kept
      exact .ok kept

theorem joinAll_maintains (patience : Nat) (given : holds items (contents runs)) :
    Meets (IsOnly holds items) err (joinAll before patience runs) := by
  fun_induction joinAll before patience runs with
  | case1 => exact .ok (.inr ⟨rfl, given⟩)
  | case2 patience run => exact .ok (.inl given)
  | case3 patience second first =>
    exact Meets.bind (join_maintains h [] patience given) fun joined kept => .ok (.inl kept)
  | case4 patience third second first rest less ih =>
    refine Meets.bind (join_maintains h [third.items] patience given) fun joined kept => ?_
    exact ih joined.1 joined.2 kept
  | case5 patience third second first rest notLess ih =>
    refine Meets.bind (join_maintains h [] patience given) fun joined kept => ?_
    exact ih joined.1 joined.2 kept

theorem sortFrom_maintains (total least fuel start : Nat) (pile : Pile α)
    (enough : items.length ≤ fuel) (given : holds items (contents pile.runs)) :
    Meets (IsOnly holds []) err (sortFrom before total least fuel start pile items) := by
  fun_induction sortFrom before total least fuel start pile items with
  | case1 start pile items =>
    obtain rfl : items = [] := List.eq_nil_of_length_eq_zero (by omega)
    exact joinAll_maintains h _ given
  | case2 fuel start pile => exact joinAll_maintains h _ given
  | case3 fuel start pile items some ih =>
    have splits : Meets (Splits items) (fun _ => True) (nextRun before least items) :=
      nextRun_meets (fun a b => meets_true (before a b)) least items
    refine Meets.bind ((h.next least _ some given).and splits) fun r taken => ?_
    refine Meets.bind (push_maintains h _ _ taken.1) fun after kept => ?_
    -- the fuel lasts, since no run is empty
    have length := taken.2.1.length_eq
    have nonempty := List.length_pos_iff.2 (taken.2.2 some)
    rw [List.length_append] at length
    exact ih r.1 r.2 after (by omega) kept

/-- What each step of the sorting maintains holds in the end. -/
theorem sort_maintains (given : holds items []) :
    Meets (IsOnly holds []) err (sort before items) :=
  sortFrom_maintains h _ _ _ 0 ⟨[], leastStretch⟩ (Nat.le_refl _) given

end

/-! ## Section 5: Sorting -/

/-- Two neighbours may be put together in either order. -/
theorem flatten_perm {as bs merged : List α} (latest rest : List (List α))
    (h : merged.Perm (as ++ bs)) :
    (latest ++ merged :: rest).flatten.Perm (latest ++ bs :: as :: rest).flatten := by
  have turned := (h.trans List.perm_append_comm).append_right rest.flatten
  simpa using turned.append_left latest.flatten

theorem maintains_perm (h : ∀ a b, Meets (fun _ => True) err (before a b)) (items : List α) :
    Maintains before err fun left runs => (left ++ runs.flatten).Perm items where
  next least _ _ given := by
    refine (nextRun_meets h least _).imp fun r splits => ?_
    refine List.Perm.trans ?_ ((splits.1.append_right _).trans given)
    rw [List.flatten_cons, List.append_assoc]
    exact List.perm_append_comm_assoc _ _ _
  merge latest rest patience given := by
    refine (merge_meets h patience _ _).imp fun m merged => ?_
    exact ((flatten_perm latest rest merged).append_left _).trans given

/-- Sorting rearranges, and fails only where a comparison does. -/
theorem sort_meets (h : ∀ a b, Meets (fun _ => True) err (before a b)) (items : List α) :
    Meets (fun out => out.Perm items) err (sort before items) := by
  have start : (items ++ ([] : List (List α)).flatten).Perm items := by simp
  refine (sort_maintains (maintains_perm h items) start).imp fun out ends => ?_
  rcases ends with one | ⟨rfl, none⟩
  · simpa using one
  · simpa using none

end Stencil.Sorting
