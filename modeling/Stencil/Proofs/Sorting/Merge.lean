import Stencil.Proofs.Sorting.Search
import Stencil.Proofs.Sorting.Stable
import Stencil.Sorting.Merge

/-! # Merging keeps the order

    Two ascending runs are merged to one.  Wherever a merge starts, and
    however it goes about, an item leaves only when it leads all that are
    left, and of items with one key those of the first run stay in front of
    those of the second.  When a merge stops comparing, one run has at most
    its last item left, and that has been known from the start to come after
    all of the other run. -/

namespace Stencil.Sorting

variable {α ε κ : Type} [LinearOrder κ] {key : α → κ} {D : α → Prop}
  {before : α → α → Except ε Bool}

/-! ## Section 1: The order at an end -/

/-- Does a comparison compare the keys, of all items that satisfy `D`? -/
def Compares (before : α → α → Except ε Bool) (key : α → κ) (D : α → Prop) : Prop :=
  ∀ a b, D a → D b → before a b = .ok (decide (key a < key b))

namespace End

/-- May an item leave before another one of the same run? -/
def Leads (e : End) (key : α → κ) (a b : α) : Prop :=
  match e with
  | front => key a ≤ key b
  | back => key b ≤ key a

/-- Does an item of the first run leave before one of the second run?  Of two
    items with one key, the one in front leaves first at the front. -/
def prefers (e : End) (key : α → κ) (a b : α) : Bool :=
  match e with
  | front => !decide (key b < key a)
  | back => decide (key b < key a)

/-- Both runs, one behind the other as seen from an end. -/
def whole (e : End) (as bs : List α) : List α :=
  match e with
  | front => as ++ bs
  | back => bs ++ as

variable {e : End} {a b c : α} {as bs : List α}

theorem mem_whole : a ∈ e.whole as bs ↔ a ∈ as ∨ a ∈ bs := by
  cases e with
  | front => exact List.mem_append
  | back => exact List.mem_append.trans or_comm

theorem leads_of_prefers (h : e.prefers key a b = true) : e.Leads key a b := by
  cases e with
  | front => simpa [prefers, Leads] using h
  | back => exact (of_decide_eq_true h).le

theorem leads_of_not_prefers (h : e.prefers key a b = false) : e.Leads key b a := by
  cases e with
  | front =>
    have less : key b < key a := by simpa [prefers] using h
    exact less.le
  | back => simpa [prefers, Leads] using h

/-- What leads an item that is preferred is preferred, too. -/
theorem Leads.prefers_left (h : e.Leads key a b) (preferred : e.prefers key b c = true) :
    e.prefers key a c = true := by
  cases e with
  | front =>
    have below : key b ≤ key c := by simpa [prefers] using preferred
    simpa [prefers] using le_trans h below
  | back => exact decide_eq_true (lt_of_lt_of_le (of_decide_eq_true preferred) h)

/-- An item is preferred to what is led by one that it is preferred to. -/
theorem Leads.prefers_right (h : e.Leads key b c) (preferred : e.prefers key a b = true) :
    e.prefers key a c = true := by
  cases e with
  | front =>
    have below : key a ≤ key b := by simpa [prefers] using preferred
    simpa [prefers] using le_trans below h
  | back => exact decide_eq_true (lt_of_le_of_lt h (of_decide_eq_true preferred))

theorem firstLeaves_eq (h : Compares before key D) (e : End) (ha : D a) (hb : D b) :
    e.firstLeaves before a b = .ok (e.prefers key a b) := by
  rw [firstLeaves, h b a hb ha]
  cases e <;> rfl

/-- An item of the first run that is preferred to all of the second one may be
    taken out in front. -/
theorem keeps_first (leaves : ∀ b ∈ bs, e.prefers key a b = true) :
    Keeps key (e.whole (a :: as) bs) (a :: e.whole as bs) := by
  cases e with
  | front => exact keeps_refl _
  | back => exact keeps_swap_cons fun b hb => (of_decide_eq_true (leaves b hb)).ne'

/-- An item of the second run to which none of the first one is preferred may
    be taken out in front. -/
theorem keeps_second (leaves : ∀ a ∈ as, e.prefers key a b = false) :
    Keeps key (e.whole as (b :: bs)) (b :: e.whole as bs) := by
  cases e with
  | front =>
    refine keeps_swap_cons fun a ha => ?_
    have less : key b < key a := by simpa [prefers] using leaves a ha
    exact less.ne
  | back => exact keeps_refl _

end End

/-! ## Section 2: Runs that are left -/

/-- Does the last item of the run that is kept aside come after all of the other
    one? -/
def End.Closes (e : End) (key : α → κ) (as bs : List α) : Prop :=
  match e with
  | .front => ∀ a ∈ as.getLast?, ∀ b ∈ bs, key b < key a
  | .back => ∀ b ∈ bs.getLast?, ∀ a ∈ as, key b < key a

/-- Are two runs, with the items in the order in which they leave, ready to be
    merged? -/
structure Ready (e : End) (key : α → κ) (D : α → Prop) (as bs : List α) : Prop where
  first : as.Pairwise (e.Leads key)
  second : bs.Pairwise (e.Leads key)
  valid_first : ∀ a ∈ as, D a
  valid_second : ∀ b ∈ bs, D b
  closes : e.Closes key as bs

section

variable {e : End} {as bs as' bs' out : List α} {a b : α} {m : Merged α}

theorem getLast?_of_suffix (h : as' <:+ as) : ∀ a ∈ as'.getLast?, a ∈ as.getLast? := by
  obtain ⟨front, rfl⟩ := h
  intro a ha
  rw [List.getLast?_append, Option.mem_def.1 ha]
  rfl

theorem Ready.suffix (h : Ready e key D as bs) (first : as' <:+ as) (second : bs' <:+ bs) :
    Ready e key D as' bs' where
  first := h.first.sublist first.sublist
  second := h.second.sublist second.sublist
  valid_first := fun a ha => h.valid_first a (first.subset ha)
  valid_second := fun b hb => h.valid_second b (second.subset hb)
  closes := by
    have closes := h.closes
    cases e with
    | front => exact fun a ha b hb => closes a (getLast?_of_suffix first a ha) b (second.subset hb)
    | back => exact fun b hb a ha => closes b (getLast?_of_suffix second b hb) a (first.subset ha)

/-- Does a merge give out, behind what has left, all that is left of two runs
    in the order in which items may leave? -/
def Completes (e : End) (key : α → κ) (out as bs : List α) (m : Merged α) : Prop :=
  ∃ tail, m.items = out.reverse ++ tail ∧ tail.Pairwise (e.Leads key) ∧
    Keeps key (e.whole as bs) tail

/-- An item that leads all that is left has left. -/
theorem Completes.leave (h : Completes e key (a :: out) as bs m)
    (leads : ∀ b ∈ e.whole as bs, e.Leads key a b)
    (keeps : Keeps key (e.whole as' bs') (a :: e.whole as bs)) :
    Completes e key out as' bs' m := by
  obtain ⟨tail, items, sorted, kept⟩ := h
  refine ⟨a :: tail, ?_, List.pairwise_cons.2 ⟨fun b hb => ?_, sorted⟩, ?_⟩
  · rw [items, List.reverse_cons, List.append_assoc, List.singleton_append]
  · exact leads b (kept.mem_iff.1 hb)
  · exact keeps.trans (kept.cons a)

theorem Completes.first (h : Completes e key (a :: out) as bs m)
    (sorted : (a :: as).Pairwise (e.Leads key)) (leaves : ∀ b ∈ bs, e.prefers key a b = true) :
    Completes e key out (a :: as) bs m := by
  refine h.leave (fun c hc => ?_) (End.keeps_first leaves)
  rcases End.mem_whole.1 hc with member | member
  · exact (List.pairwise_cons.1 sorted).1 c member
  · exact End.leads_of_prefers (leaves c member)

theorem Completes.second (h : Completes e key (b :: out) as bs m)
    (sorted : (b :: bs).Pairwise (e.Leads key)) (leaves : ∀ a ∈ as, e.prefers key a b = false) :
    Completes e key out as (b :: bs) m := by
  refine h.leave (fun c hc => ?_) (End.keeps_second leaves)
  rcases End.mem_whole.1 hc with member | member
  · exact End.leads_of_not_prefers (leaves c member)
  · exact (List.pairwise_cons.1 sorted).1 c member

/-- A stretch of the first run has left. -/
theorem Completes.takeFirst {n : Nat} (sorted : as.Pairwise (e.Leads key))
    (leaves : ∀ a ∈ as.take n, ∀ b ∈ bs, e.prefers key a b = true)
    (h : Completes e key ((as.take n).reverse ++ out) (as.drop n) bs m) :
    Completes e key out as bs m := by
  induction n generalizing as out with
  | zero => exact h
  | succ n ih =>
    cases as with
    | nil => exact h
    | cons a as =>
      rw [List.take_succ_cons, List.forall_mem_cons] at leaves
      rw [List.take_succ_cons, List.reverse_cons, List.append_assoc, List.drop_succ_cons] at h
      exact (ih (List.pairwise_cons.1 sorted).2 leaves.2 h).first sorted leaves.1

/-- A stretch of the second run has left. -/
theorem Completes.takeSecond {n : Nat} (sorted : bs.Pairwise (e.Leads key))
    (leaves : ∀ b ∈ bs.take n, ∀ a ∈ as, e.prefers key a b = false)
    (h : Completes e key ((bs.take n).reverse ++ out) as (bs.drop n) m) :
    Completes e key out as bs m := by
  induction n generalizing bs out with
  | zero => exact h
  | succ n ih =>
    cases bs with
    | nil => exact h
    | cons b bs =>
      rw [List.take_succ_cons, List.forall_mem_cons] at leaves
      rw [List.take_succ_cons, List.reverse_cons, List.append_assoc, List.drop_succ_cons] at h
      exact (ih (List.pairwise_cons.1 sorted).2 leaves.2 h).second sorted leaves.1

/-- A list at both ends of which there is one item. -/
theorem pairwise_leads_concat {e : End} (sorted : as.Pairwise (e.Leads key))
    (last : ∀ b ∈ as, e.Leads key b a) : (as ++ [a]).Pairwise (e.Leads key) := by
  rw [List.pairwise_append]
  refine ⟨sorted, List.pairwise_singleton _ _, fun b hb c hc => ?_⟩
  rw [List.mem_singleton.1 hc]
  exact last b hb

/-- What is left of a merge from the front may leave with the second run in
    front. -/
theorem Ready.rest_front (h : Ready .front key D as bs)
    (settles : End.front.isSettled as bs = true) :
    (End.front.rest as bs).Pairwise (End.front.Leads key) ∧
      Keeps key (End.front.whole as bs) (End.front.rest as bs) := by
  cases as with
  | nil =>
    rw [End.rest, List.append_nil]
    exact ⟨h.second, keeps_refl _⟩
  | cons a as =>
    cases as with
    | nil =>
      -- the item that is kept aside passes all of the second run
      have after : ∀ b ∈ bs, key b < key a := h.closes a rfl
      refine ⟨pairwise_leads_concat h.second fun b hb => (after b hb).le, ?_⟩
      refine keeps_swap fun c hc b hb => ?_
      rw [List.mem_singleton.1 hc]
      exact (after b hb).ne'
    | cons a' as =>
      cases bs with
      | nil =>
        show ([] ++ (a :: a' :: as)).Pairwise _ ∧ Keeps key ((a :: a' :: as) ++ []) _
        rw [List.append_nil]
        exact ⟨h.first, keeps_refl _⟩
      | cons b bs => cases settles

/-- From the back, the runs change places. -/
theorem Ready.rest_back (h : Ready .back key D as bs)
    (settles : End.back.isSettled as bs = true) :
    (End.back.rest as bs).Pairwise (End.back.Leads key) ∧
      Keeps key (End.back.whole as bs) (End.back.rest as bs) := by
  cases bs with
  | nil =>
    rw [End.rest, List.append_nil]
    exact ⟨h.first, keeps_refl _⟩
  | cons b bs =>
    cases bs with
    | nil =>
      have after : ∀ a ∈ as, key b < key a := h.closes b rfl
      refine ⟨pairwise_leads_concat h.first fun a ha => (after a ha).le, ?_⟩
      refine keeps_swap fun c hc a ha => ?_
      rw [List.mem_singleton.1 hc]
      exact (after a ha).ne
    | cons b' bs =>
      cases as with
      | nil =>
        show ([] ++ (b :: b' :: bs)).Pairwise _ ∧ Keeps key ((b :: b' :: bs) ++ []) _
        rw [List.append_nil]
        exact ⟨h.second, keeps_refl _⟩
      | cons a as => cases settles

/-- Once a merge is settled, what is left may leave one run after the
    other. -/
theorem settled_completes (h : Ready e key D as bs) (settles : e.isSettled as bs = true)
    (patience : Nat) (out : List α) : Completes e key out as bs (settled e patience out as bs) := by
  refine ⟨e.rest as bs, rfl, ?_⟩
  cases e with
  | front => exact h.rest_front settles
  | back => exact h.rest_back settles

end

/-! ## Section 3: Runs -/

/-- Is a list a run: in ascending order, of items that satisfy `D`? -/
structure IsRun (key : α → κ) (D : α → Prop) (items : List α) : Prop where
  ascends : Ascends key items
  valid : ∀ a ∈ items, D a

theorem IsRun.sublist {items part : List α} (run : IsRun key D items) (h : part.Sublist items) :
    IsRun key D part :=
  ⟨run.ascends.sublist h, fun a ha => run.valid a (h.subset ha)⟩

theorem Sorts.isRun {items out : List α} (sorts : Sorts key items out)
    (valid : ∀ a ∈ items, D a) : IsRun key D out :=
  ⟨sorts.ascends, fun a ha => valid a (sorts.keeps.mem_iff.1 ha)⟩

section

variable {as bs : List α} {a b : α}

/-- What a merge at an end gives, turned to the end, is in ascending order. -/
theorem Completes.sorts {e : End} {m : Merged α}
    (completes : Completes e key [] (e.orient as) (e.orient bs) m) :
    Sorts key (as ++ bs) (e.orient m.items) := by
  obtain ⟨tail, items, sorted, keeps⟩ := completes
  rw [items]
  cases e with
  | front => exact ⟨sorted, keeps⟩
  | back =>
    have whole : Keeps key (bs.reverse ++ as.reverse) tail := keeps
    rw [← List.reverse_append] at whole
    have turned := whole.reverse
    rw [List.reverse_reverse] at turned
    exact ⟨List.pairwise_reverse.2 sorted, turned⟩

/-- Two runs, of which the greatest item is in the first and the least one in the
    second, are ready to be merged. -/
theorem ready_orient (e : End) (first : IsRun key D as) (second : IsRun key D bs)
    (head : bs.head? = some b) (last : as.getLast? = some a) (leads : ∀ c ∈ as, key b < key c)
    (trails : ∀ c ∈ bs, key c < key a) : Ready e key D (e.orient as) (e.orient bs) := by
  cases e with
  | front =>
    refine ⟨first.ascends, second.ascends, first.valid, second.valid, fun c hc => ?_⟩
    cases Option.some.inj (hc.symm.trans last)
    exact trails
  | back =>
    refine ⟨List.pairwise_reverse.2 first.ascends, List.pairwise_reverse.2 second.ascends, ?_, ?_,
      ?_⟩
    · exact fun c hc => first.valid c (List.mem_reverse.1 hc)
    · exact fun c hc => second.valid c (List.mem_reverse.1 hc)
    · intro c hc d hd
      rw [End.orient, List.getLast?_reverse] at hc
      cases Option.some.inj (hc.symm.trans head)
      exact leads d (List.mem_reverse.1 hd)

theorem sorts_append (first : IsRun key D as) (second : IsRun key D bs)
    (between : ∀ a ∈ as, ∀ b ∈ bs, key a ≤ key b) : Sorts key (as ++ bs) (as ++ bs) :=
  Ascends.sorts (List.pairwise_append.2 ⟨first.ascends, second.ascends, between⟩)

/-- Items between others that come before and behind them may be sorted. -/
theorem Sorts.between {items middle : List α} (sorts : Sorts key items middle)
    (first : Ascends key as) (second : Ascends key bs)
    (below : ∀ a ∈ as, ∀ c ∈ items ++ bs, key a ≤ key c)
    (above : ∀ c ∈ items, ∀ b ∈ bs, key c ≤ key b) :
    Sorts key (as ++ (items ++ bs)) (as ++ middle ++ bs) := by
  have keeps := sorts.keeps.append (keeps_refl bs)
  rw [List.append_assoc]
  refine ⟨List.pairwise_append.2 ⟨first, List.pairwise_append.2 ⟨sorts.ascends, second, ?_⟩, ?_⟩,
    (keeps_refl as).append keeps⟩
  · exact fun c hc b hb => above c (sorts.keeps.mem_iff.1 hc) b hb
  · exact fun a ha c hc => below a ha c (keeps.mem_iff.1 hc)

/-- What comes before all of the second run stays in front, what comes after all
    of the first one stays behind, and the rest may be sorted. -/
theorem Sorts.amid {middle : List α} {m kept : Nat} (first : Ascends key as)
    (second : Ascends key bs) (below : ∀ a ∈ as.take m, ∀ b ∈ bs, key a ≤ key b)
    (above : ∀ a ∈ as, ∀ b ∈ bs.drop kept, key a ≤ key b)
    (sorts : Sorts key (as.drop m ++ bs.take kept) middle) :
    Sorts key (as ++ bs) (as.take m ++ middle ++ bs.drop kept) := by
  -- both lists are cut in two, and only the inner parts are sorted
  have whole : as ++ bs = as.take m ++ ((as.drop m ++ bs.take kept) ++ bs.drop kept) := by
    rw [List.append_assoc, List.take_append_drop, ← List.append_assoc, List.take_append_drop]
  rw [whole]
  refine sorts.between (first.sublist (List.take_sublist m as))
    (second.sublist (List.drop_sublist kept bs)) ?_ ?_
  · intro a ha c hc
    rw [List.append_assoc, List.take_append_drop] at hc
    rcases List.mem_append.1 hc with member | member
    · exact first.take_le_drop m a ha c member
    · exact below a ha c member
  · intro c hc b hb
    rcases List.mem_append.1 hc with member | member
    · exact above c (List.mem_of_mem_drop member) b hb
    · exact second.take_le_drop kept c member b hb

end

/-! ## Section 4: Giving out -/

section

variable {e : End} {as bs : List α} {a b : α}

/-- Preference for an item of the first run, against one of the second, ends
    somewhere in the first run. -/
theorem fades_first (sorted : as.Pairwise (e.Leads key)) (b : α) :
    Fades (fun a => e.prefers key a b) as :=
  sorted.imp fun leads preferred => leads.prefers_left preferred

/-- Preference for an item of the second run ends somewhere in the second. -/
theorem fades_second (sorted : bs.Pairwise (e.Leads key)) (a : α) :
    Fades (fun b => !e.prefers key a b) bs := by
  refine sorted.imp fun {b c} leads preferred => ?_
  rw [Bool.not_eq_true', ← Bool.not_eq_true] at preferred ⊢
  exact fun again => preferred (leads.prefers_right again)

/-- What is preferred to the head of a run is preferred to all of it. -/
theorem prefers_all (sorted : (b :: bs).Pairwise (e.Leads key))
    (preferred : e.prefers key a b = true) : ∀ c ∈ b :: bs, e.prefers key a c = true := by
  rw [List.forall_mem_cons]
  refine ⟨preferred, fun c hc => ?_⟩
  exact ((List.pairwise_cons.1 sorted).1 c hc).prefers_right preferred

/-- If the head of a run is not preferred to an item, nothing of the run is. -/
theorem not_prefers_all (sorted : (a :: as).Pairwise (e.Leads key))
    (preferred : e.prefers key a b = false) : ∀ c ∈ a :: as, e.prefers key c b = false := by
  rw [List.forall_mem_cons]
  refine ⟨preferred, fun c hc => ?_⟩
  rw [← Bool.not_eq_true] at preferred ⊢
  exact fun again => preferred (((List.pairwise_cons.1 sorted).1 c hc).prefers_left again)

theorem isSettled_nil_left (e : End) (bs : List α) : e.isSettled [] bs = true := by
  cases e with
  | front => rfl
  | back => rcases bs with _ | ⟨b, _ | ⟨c, bs⟩⟩ <;> rfl

theorem isSettled_nil_right (e : End) (as : List α) : e.isSettled as [] = true := by
  cases e with
  | front => rcases as with _ | ⟨a, _ | ⟨c, as⟩⟩ <;> rfl
  | back => rcases as with _ | ⟨a, as⟩ <;> rfl

/-- The items of the first run that are preferred to the head of the second one
    leave in one stretch. -/
theorem Completes.stretchFirst {out : List α} {m : Merged α} {n : Nat}
    (h : Completes e key ((as.take n).reverse ++ out) (as.drop n) (b :: bs) m)
    (ready : Ready e key D as (b :: bs)) (divides : Divides (fun a => e.prefers key a b) as n) :
    Completes e key out as (b :: bs) m :=
  h.takeFirst ready.first fun a ha => prefers_all ready.second (divides.of_mem_take a ha)

/-- The items of the second run to which the head of the first one is not
    preferred leave in one stretch. -/
theorem Completes.stretchSecond {out : List α} {m : Merged α} {n : Nat}
    (h : Completes e key ((bs.take n).reverse ++ out) (a :: as) (bs.drop n) m)
    (ready : Ready e key D (a :: as) bs) (divides : Divides (fun b => !e.prefers key a b) bs n) :
    Completes e key out (a :: as) bs m := by
  refine h.takeSecond ready.second fun b hb => not_prefers_all ready.first ?_
  simpa using divides.of_mem_take b hb

end

section

variable (h : Compares before key D)
include h

theorem leading_first {e : End} {as bs : List α} {b : α} (ready : Ready e key D as (b :: bs)) :
    Meets (Divides (fun a => e.prefers key a b) as) (fun _ => False)
      (leading e.upper (fun a => e.firstLeaves before a b) as) :=
  leading_divides (fades_first ready.first b) (fun a ha => e.firstLeaves_eq h
    (ready.valid_first a ha) (ready.valid_second b List.mem_cons_self)) _

theorem leading_second {e : End} {as bs : List α} {a : α} (ready : Ready e key D (a :: as) bs) :
    Meets (Divides (fun b => !e.prefers key a b) bs) (fun _ => False)
      (leading e.upper (fun b => return !(← e.firstLeaves before a b)) bs) := by
  refine leading_divides (fades_second ready.second a) (fun b hb => ?_) _
  rw [e.firstLeaves_eq h (ready.valid_first a List.mem_cons_self) (ready.valid_second b hb)]
  rfl

mutual

theorem alternate_completes {e : End} {patience wonFirst wonSecond : Nat} {out as bs : List α}
    (ready : Ready e key D as bs) :
    Meets (Completes e key out as bs) (fun _ => False)
      (alternate e before patience wonFirst wonSecond out as bs) := by
  -- the model's own recursion: each call has fewer items left, or leaves this mode
  rw [alternate.eq_def]
  split
  next settles => exact .ok (settled_completes ready settles patience out)
  · split
    · exact inStretches_completes ready
    · split
      next a as b bs _ =>
        have heads := e.firstLeaves_eq h (ready.valid_first a List.mem_cons_self)
          (ready.valid_second b List.mem_cons_self)
        rw [heads]
        show Meets _ _ (if e.prefers key a b = true then _ else _)
        split
        next leaves =>
          have behind := ready.suffix (List.suffix_cons a as) List.suffix_rfl
          refine (alternate_completes behind).imp fun m completes => ?_
          exact completes.first ready.first (prefers_all ready.second leaves)
        next stays =>
          have behind := ready.suffix List.suffix_rfl (List.suffix_cons b bs)
          refine (alternate_completes behind).imp fun m completes => ?_
          rw [Bool.not_eq_true] at stays
          exact completes.second ready.second (not_prefers_all ready.first stays)
      next other =>
        have settles : e.isSettled as bs = true := by
          cases as with
          | nil => exact isSettled_nil_left e bs
          | cons a as =>
            cases bs with
            | nil => exact isSettled_nil_right e _
            | cons b bs => exact (other a as b bs rfl rfl).elim
        exact .ok (settled_completes ready settles patience out)
termination_by 2 * (as.length + bs.length) + 1

theorem inStretches_completes {e : End} {patience : Nat} {out as bs : List α}
    (ready : Ready e key D as bs) :
    Meets (Completes e key out as bs) (fun _ => False)
      (inStretches e before patience out as bs) := by
  match bs, ready with
  | [], ready =>
    rw [inStretches]
    exact .ok (settled_completes ready (isSettled_nil_right e as) patience out)
  | b :: bs, ready =>
    rw [inStretches]
    refine Meets.bind (leading_first h ready) fun m divides => ?_
    -- a stretch of the first run leaves, and then `b` does
    have dropped := ready.suffix (List.drop_suffix m as) List.suffix_rfl
    have behind := dropped.suffix List.suffix_rfl (List.suffix_cons b bs)
    have back {merged : Merged α}
        (completes : Completes e key (b :: ((as.take m).reverse ++ out)) (as.drop m) bs merged) :
        Completes e key out as (b :: bs) merged :=
      (completes.second ready.second divides.of_mem_drop).stretchFirst ready divides
    split
    next settles => exact .ok ((settled_completes dropped settles _ _).stretchFirst ready divides)
    · split
      next settles => exact .ok (back (settled_completes behind settles _ _))
      · split
        next left =>
          rw [left] at behind back
          exact .ok (back (settled_completes behind (isSettled_nil_left e bs) _ _))
        next a rest left =>
          -- at least `a` is gone from the first run, whatever `m` is
          have shorter : rest.length < as.length := by
            have length := congrArg List.length left
            simp only [List.length_drop, List.length_cons] at length
            omega
          rw [left] at behind back
          refine Meets.bind (leading_second h behind) fun n divides' => ?_
          -- now a stretch of the second run leaves, and then `a` does
          have leaves : ∀ c ∈ bs.drop n, e.prefers key a c = true := by
            intro c hc
            simpa using divides'.of_mem_drop c hc
          have dropped' := behind.suffix List.suffix_rfl (List.drop_suffix n bs)
          have behind' := dropped'.suffix (List.suffix_cons a rest) List.suffix_rfl
          have back' {merged : Merged α}
              (completes : Completes e key
                ((bs.take n).reverse ++ b :: ((as.take m).reverse ++ out))
                (a :: rest) (bs.drop n) merged) : Completes e key out as (b :: bs) merged :=
            back (completes.stretchSecond behind divides')
          split
          next settles => exact .ok (back' (settled_completes dropped' settles _ _))
          · split
            next settles =>
              exact .ok (back' ((settled_completes behind' settles _ _).first behind.first leaves))
            · split
              · refine (inStretches_completes behind').imp fun merged completes => ?_
                exact back' (completes.first behind.first leaves)
              · refine (alternate_completes behind').imp fun merged completes => ?_
                exact back' (completes.first behind.first leaves)
termination_by 2 * (as.length + bs.length)
decreasing_by
  all_goals
    simp only [List.length_drop, List.length_cons]
    omega

end

/-! ## Section 5: Merging -/

section

variable {as bs : List α} {a b : α}

/-- The item that is given out unseen is the least one, or the greatest. -/
theorem mergeFrom_sorts (e : End) (patience : Nat) (first : IsRun key D as)
    (second : IsRun key D bs) (head : bs.head? = some b) (last : as.getLast? = some a)
    (leads : ∀ c ∈ as, key b < key c) (trails : ∀ c ∈ bs, key c < key a) :
    Meets (fun m : Merged α => Sorts key (as ++ bs) m.items) (fun _ => False)
      (mergeFrom e before patience as bs) := by
  have ready := ready_orient e first second head last leads trails
  -- from the front the second run gives the first item, from the back the first run does
  cases e with
  | front =>
    obtain ⟨bs', rfl⟩ := List.head?_eq_some_iff.1 head
    have behind := ready.suffix List.suffix_rfl (List.suffix_cons b bs')
    refine Meets.bind (alternate_completes h behind) fun m completes => .ok ?_
    have leaves : ∀ c ∈ as, End.front.prefers key c b = false :=
      fun c hc => by simp [End.prefers, leads c hc]
    exact Completes.sorts (e := .front) (completes.second ready.second leaves)
  | back =>
    obtain ⟨as', same⟩ : ∃ as', as.reverse = a :: as' := by
      obtain ⟨front, rfl⟩ := List.getLast?_eq_some_iff.1 last
      exact ⟨front.reverse, List.reverse_concat⟩
    have leaves : ∀ c ∈ bs.reverse, End.back.prefers key a c = true :=
      fun c hc => decide_eq_true (trails c (List.mem_reverse.1 hc))
    simp only [End.orient, same] at ready
    have behind := ready.suffix (List.suffix_cons a as') List.suffix_rfl
    simp only [mergeFrom, End.orient, same]
    refine Meets.bind (alternate_completes h behind) fun m completes => .ok ?_
    have given := completes.first ready.first leaves
    rw [← same] at given
    exact Completes.sorts (e := .back) given

/-- The first search finds what of the first run comes after the least item of
    the second one; the rest of it stays in front. -/
theorem leading_below (first : IsRun key D as) (second : IsRun key D (b :: bs)) :
    Meets (fun m => (∀ a ∈ as.take m, ∀ c ∈ b :: bs, key a ≤ key c) ∧
        ∀ a ∈ as.drop m, key b < key a) (fun _ => False)
      (leading End.front.upper (fun a => return !(← before b a)) as) := by
  have asks : ∀ a ∈ as, (do return !(← before b a)) = .ok (End.front.prefers key a b) := by
    intro a ha
    rw [h b a (second.valid b List.mem_cons_self) (first.valid a ha)]
    rfl
  have fades := fades_first (e := .front) first.ascends b
  refine (leading_divides fades asks _).imp fun m divides => ⟨fun a ha c hc => ?_, fun a ha => ?_⟩
  · have stays : key a ≤ key b := End.leads_of_prefers (e := .front) (divides.of_mem_take a ha)
    exact stays.trans (second.ascends.head_le c hc)
  · simpa [End.prefers] using divides.of_mem_drop a ha

/-- The second search finds, from the back, what of the second run comes before
    an item of the first one; the rest of it stays behind. -/
theorem leading_above (valid : D a) (second : IsRun key D bs) :
    Meets (fun n => (∀ c ∈ bs.drop (bs.length - n), key a ≤ key c) ∧
        ∀ c ∈ bs.take (bs.length - n), key c < key a) (fun _ => False)
      (leading End.back.upper (fun c => return !(← before c a)) bs.reverse) := by
  have asks : ∀ c ∈ bs.reverse, (do return !(← before c a)) =
      .ok (!End.back.prefers key a c) := by
    intro c hc
    rw [h c a (second.valid c (List.mem_reverse.1 hc)) valid]
    rfl
  have fades := fades_second (e := .back) (List.pairwise_reverse.2 second.ascends) a
  refine (leading_divides fades asks _).imp fun n divides => ⟨fun c hc => ?_, fun c hc => ?_⟩
  · have front := divides.of_mem_take c (by rwa [List.take_reverse, List.mem_reverse])
    simpa [End.prefers] using front
  · have back := divides.of_mem_drop c (by rwa [List.drop_reverse, List.mem_reverse])
    simpa [End.prefers] using back

theorem merge_sorts (patience : Nat) (first : IsRun key D as) (second : IsRun key D bs) :
    Meets (fun m : Merged α => Sorts key (as ++ bs) m.items) (fun _ => False)
      (merge before patience as bs) := by
  unfold merge
  split
  next =>
    refine .ok ?_
    rw [List.append_nil]
    exact first.ascends.sorts
  next b bs =>
    refine Meets.bind (leading_below h first second) fun m found => ?_
    obtain ⟨below, above⟩ := found
    split
    next none =>
      -- nothing of the first run comes after the least item of the second
      rw [List.getLast?_eq_none_iff] at none
      have all : as.take m = as := by simpa [none] using List.take_append_drop m as
      rw [all] at below
      exact .ok (sorts_append first second below)
    next a last =>
      have valid := first.valid a (List.mem_of_mem_drop (List.mem_of_getLast? last))
      refine Meets.bind (leading_above h valid second) fun n found => ?_
      dsimp only
      generalize (b :: bs).length - n = kept at found
      obtain ⟨beyond, inside⟩ := found
      have greatest : ∀ c ∈ as, key c ≤ key a :=
        first.ascends.le_last (getLast?_of_suffix (List.drop_suffix m as) a last)
      have behind : ∀ c ∈ as, ∀ d ∈ (b :: bs).drop kept, key c ≤ key d :=
        fun c hc d hd => (greatest c hc).trans (beyond d hd)
      split
      next zero =>
        rw [zero, List.drop_zero] at behind
        exact .ok (sorts_append first second behind)
      next some =>
        -- `b` and `a` are the ends that `mergeFrom` gives out without a comparison
        have head : ((b :: bs).take kept).head? = Option.some b := by
          rw [List.head?_take, if_neg some]
          rfl
        have part := first.sublist (List.drop_sublist m as)
        have part' := second.sublist (List.take_sublist kept (b :: bs))
        exact Meets.bind (mergeFrom_sorts h _ patience part part' head last above inside)
          fun merged sorts => .ok (sorts.amid first.ascends second.ascends below behind)

end

end

end Stencil.Sorting
