import Stencil.Proofs.Sorting.Permutation
import Stencil.Proofs.Sorting.Search

/-! # Mixtures cannot be sorted

    If only items of one class can be compared, the sorting of a list has a
    result only if all of its items are of one class.  Few pairs are ever
    compared, but each comparison connects: an item that goes on a run is
    compared with the one before it, one that is inserted with some item of
    the run, and of two runs that are merged, the heads are compared. -/

namespace Stencil.Sorting

variable {α ε κ : Type} {cls : α → κ} {before : α → α → Except ε Bool}

/-! ## Section 1: Lists of one class -/

/-- Are there items in a list, all of one class? -/
structure OneClass (cls : α → κ) (items : List α) : Prop where
  some : items ≠ []
  same : ∀ a ∈ items, ∀ b ∈ items, cls a = cls b

section

variable {as bs : List α} {a b : α}

theorem oneClass_singleton (a : α) : OneClass cls [a] :=
  ⟨List.cons_ne_nil a [], fun _ hb _ hc => by rw [List.mem_singleton.1 hb, List.mem_singleton.1 hc]⟩

theorem OneClass.append (first : OneClass cls as) (second : OneClass cls bs) (ha : a ∈ as)
    (hb : b ∈ bs) (link : cls a = cls b) : OneClass cls (as ++ bs) := by
  have all : ∀ c ∈ as ++ bs, cls c = cls a := by
    rw [List.forall_mem_append]
    exact ⟨fun c hc => first.same c hc a ha, fun c hc => (second.same c hc b hb).trans link.symm⟩
  exact ⟨List.append_ne_nil_of_left_ne_nil first.some bs,
    fun c hc d hd => (all c hc).trans (all d hd).symm⟩

theorem OneClass.perm (h : OneClass cls as) (rearranged : bs.Perm as) : OneClass cls bs where
  some := fun none => h.some (by rw [none] at rearranged; exact rearranged.nil_eq.symm)
  same := fun a ha b hb => h.same a (rearranged.mem_iff.1 ha) b (rearranged.mem_iff.1 hb)

end

/-! ## Section 2: Searching -/

section

variable {told : Prop}

theorem halve_tells {probe : Nat → Except ε Bool} (upper : Bool) {low high : Nat}
    (some : low < high)
    (tells : ∀ i, low ≤ i → i < high → Meets (fun _ => told) (fun _ => True) (probe i)) :
    Meets (fun _ => told) (fun _ => True) (halve upper probe low high) := by
  rw [halve, if_pos some]
  exact (tells _ (Nat.le_add_right _ _) (middle_lt upper some)).followed _

/-- The item at the head is always asked. -/
theorem leading_tells (holds : α → Except ε Bool) (upper : Bool) {a : α}
    (tells : Meets (fun _ => told) (fun _ => True) (holds a)) (items : List α) :
    Meets (fun _ => told) (fun _ => True) (leading upper holds (a :: items)) := by
  have first : Meets (fun _ => told) (fun _ => True) (probeOf holds (a :: items) 0) := tells
  exact first.followed _

end

/-! ## Section 3: Runs -/

section

variable (h : ∀ a b, Meets (fun _ => cls a = cls b) (fun _ => True) (before a b))
include h

theorem merge_oneClass (patience : Nat) {as bs : List α} (first : OneClass cls as)
    (second : OneClass cls bs) :
    Meets (fun m : Merged α => OneClass cls m.items) (fun _ => True)
      (merge before patience as bs) := by
  obtain ⟨a, as, rfl⟩ := List.exists_cons_of_ne_nil first.some
  obtain ⟨b, bs, rfl⟩ := List.exists_cons_of_ne_nil second.some
  -- the search for what stays in front asks the head of the first run at once
  have heads : Meets (fun _ => cls b = cls a) (fun _ => True) (do return !(← before b a)) :=
    (h b a).followed _
  have link : Meets (fun _ => cls b = cls a) (fun _ => True)
      (merge before patience (a :: as) (b :: bs)) :=
    (leading_tells (fun c => return !(← before b c)) _ heads as).followed _
  have rearranged := merge_meets (fun c d => meets_true (before c d)) patience (a :: as) (b :: bs)
  refine (link.and rearranged).mono (fun m facts => ?_) fun _ _ => trivial
  exact (first.append second List.mem_cons_self List.mem_cons_self facts.1.symm).perm facts.2

theorem takeRun_oneClass (descending : Bool) {taken : List α} {last : α}
    (run : OneClass cls (last :: taken)) (items : List α) :
    Meets (fun r : List α × List α => OneClass cls r.1) (fun _ => True)
      (takeRun before descending (last :: taken) last items) := by
  induction items generalizing taken last with
  | nil => exact .ok run
  | cons a items ih =>
    refine Meets.bind (h a last) fun _ link => ?_
    split
    · exact ih ((oneClass_singleton a).append run List.mem_cons_self List.mem_cons_self link)
    · exact .ok run

theorem headRun_oneClass {items : List α} (some : items ≠ []) :
    Meets (fun r : List α × List α => OneClass cls r.1) (fun _ => True)
      (headRun before items) := by
  unfold headRun
  split
  next a b rest =>
    refine Meets.bind (h b a) fun descending link => ?_
    -- the comparison links the first two, the others are linked one by one
    have two : OneClass cls [b, a] := (oneClass_singleton b).append (oneClass_singleton a)
      List.mem_cons_self List.mem_cons_self link
    refine Meets.bind (takeRun_oneClass h descending two rest) fun r run => .ok ?_
    show OneClass cls (if descending then r.1 else r.1.reverse)
    split
    · exact run
    · exact run.perm (List.reverse_perm r.1)
  next other =>
    match items, some with
    | [a], _ => exact .ok (oneClass_singleton a)
    | a :: b :: rest, _ => exact (other a b rest rfl).elim

theorem insert_oneClass {sorted : List α} (run : OneClass cls sorted) (a : α) :
    Meets (OneClass cls) (fun _ => True) (insert before sorted a) := by
  obtain ⟨b, hb⟩ := List.exists_mem_of_ne_nil sorted run.some
  -- whichever item is asked first, it is of the class of the run
  have tells : ∀ i, 0 ≤ i → i < sorted.length → Meets (fun _ => cls a = cls b) (fun _ => True)
      (probeOf (fun c => return !(← before a c)) sorted i) := by
    intro i _ inside
    rw [probeOf, List.getElem?_eq_getElem inside]
    refine (Meets.mono (h a sorted[i]) (fun _ link => ?_) fun _ _ => trivial).followed _
    exact link.trans (run.same _ (List.getElem_mem inside) b hb)
  have link : Meets (fun _ => cls a = cls b) (fun _ => True) (insert before sorted a) :=
    (halve_tells true (List.length_pos_iff.2 run.some) tells).followed _
  have rearranged := insert_meets (fun c d => meets_true (before c d)) sorted a
  refine (link.and rearranged).mono (fun out facts => ?_) fun _ _ => trivial
  exact (run.append (oneClass_singleton a) hb List.mem_cons_self facts.1.symm).perm facts.2

theorem insertAll_oneClass {sorted : List α} (run : OneClass cls sorted) (items : List α) :
    Meets (OneClass cls) (fun _ => True) (insertAll before sorted items) := by
  induction items generalizing sorted with
  | nil => exact .ok run
  | cons a items ih => exact Meets.bind (insert_oneClass h run a) fun inserted run' => ih run'

theorem nextRun_oneClass (least : Nat) {items : List α} (some : items ≠ []) :
    Meets (fun r : List α × List α => OneClass cls r.1) (fun _ => True)
      (nextRun before least items) :=
  Meets.bind (headRun_oneClass h some) fun _ run =>
    Meets.bind (insertAll_oneClass h run _) fun _ run' => .ok run'

/-! ## Section 4: Sorting -/

theorem maintains_oneClass :
    Maintains before (fun _ => True) fun _ runs => ∀ run ∈ runs, OneClass cls run where
  next least _ some given :=
    (nextRun_oneClass h least some).imp fun _ run => List.forall_mem_cons.2 ⟨run, given⟩
  merge latest rest patience given := by
    rw [List.forall_mem_append, List.forall_mem_cons, List.forall_mem_cons] at given
    obtain ⟨others, second, first, behind⟩ := given
    refine (merge_oneClass h patience first second).imp fun m merged => ?_
    exact List.forall_mem_append.2 ⟨others, List.forall_mem_cons.2 ⟨merged, behind⟩⟩

/-- Items that have been sorted are of one class. -/
theorem same_of_sort {items out : List α} (sorted : sort before items = .ok out) :
    ∀ a ∈ items, ∀ b ∈ items, cls a = cls b := by
  have rearranged := (sort_meets (fun a b => meets_true (before a b)) items).of_ok sorted
  have same : ∀ a ∈ out, ∀ b ∈ out, cls a = cls b := by
    rcases (sort_maintains (maintains_oneClass h) nofun).of_ok sorted with each | ⟨rfl, -⟩
    · exact (each out List.mem_cons_self).same
    · exact fun a ha => absurd ha List.not_mem_nil
  exact fun a ha b hb => same a (rearranged.mem_iff.2 ha) b (rearranged.mem_iff.2 hb)

end

end Stencil.Sorting
