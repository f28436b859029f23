import Mathlib.Data.List.Forall2
import Stencil.Filter.Standard
import Stencil.Loop.Items
import Stencil.Native.Print
import Stencil.Proofs.Computation
import Stencil.Proofs.Native.Progression

/-! # Ranges behave as the lists of their members

    A range answers most questions by arithmetic, and is only listed where
    its members are asked for one by one.  As long as its members can be
    counted, no operation on values tells it from the sequence of its
    members: both are equal to the same values, contain and look up the
    same, print the same text, and a loop walks along the same data. -/

namespace Stencil

/-! ## Section 1: Integers among the numbers -/

theorem Double.unitsPerOne_pos : 0 < Double.unitsPerOne := by
  unfold Double.unitsPerOne
  apply Nat.pow_pos
  decide

/-- A finite number is equal to an integer exactly if it is whole and its
    integer part is that integer. -/
theorem Double.units_eq_iff (negative : Bool) (units : Nat) (n : Int) :
    n * Double.unitsPerOne = Double.signedUnits negative units ↔
      units % Double.unitsPerOne = 0 ∧
        Double.signedUnits negative (units / Double.unitsPerOne) = n := by
  have one := Double.unitsPerOne_pos
  generalize Double.unitsPerOne = unit at one
  constructor
  · intro same
    -- sign and absolute value are compared by themselves
    have magnitude : units = n.natAbs * unit := by
      have sides := congrArg Int.natAbs same
      rw [Int.natAbs_mul, Int.natAbs_natCast] at sides
      cases negative <;> simpa [signedUnits] using sides.symm
    have sign : signedUnits negative n.natAbs = n := by
      cases negative with
      | false =>
        have side : 0 ≤ n := by
          rw [← Int.mul_nonneg_iff_of_pos_right (Int.natCast_pos.2 one), same]
          exact Int.natCast_nonneg units
        show (n.natAbs : Int) = n
        omega
      | true =>
        have side : 0 ≤ -n := by
          rw [← Int.mul_nonneg_iff_of_pos_right (Int.natCast_pos.2 one), Int.neg_mul, same]
          simp [signedUnits]
        show -(n.natAbs : Int) = n
        omega
    rw [magnitude, Nat.mul_mod_left, Nat.mul_div_cancel _ one]
    exact ⟨rfl, sign⟩
  · rintro ⟨whole, rfl⟩
    have product : units / unit * unit = units := by
      rw [← Nat.dvd_iff_mod_eq_zero] at whole
      exact Nat.div_mul_cancel whole
    cases negative with
    | false =>
      show ((units / unit : Nat) : Int) * unit = units
      exact_mod_cast product
    | true =>
      show -((units / unit : Nat) : Int) * unit = -units
      rw [Int.neg_mul, Int.neg_inj]
      exact_mod_cast product

/-- A number is equal to an integer exactly if it stands for that integer. -/
theorem Number.equal_int_iff (n : Int) (m : Number) :
    Number.equal (.int n) m = true ↔ Value.wholeNumber? m = some n := by
  have one := Double.unitsPerOne_pos
  cases m with
  | int k =>
    have scaled : n * Double.unitsPerOne = k * Double.unitsPerOne ↔ k = n := by
      rw [Int.mul_eq_mul_right_iff (by omega)]
      exact eq_comm
    simpa [equal, rank?, Value.wholeNumber?] using scaled
  | float d =>
    cases d with
    | finite negative units =>
      simpa [equal, rank?, Value.wholeNumber?, Double.isWhole, Double.truncate?] using
        Double.units_eq_iff negative units n
    | infinite negative =>
      cases negative <;> simp [equal, rank?, Value.wholeNumber?, Double.isWhole]
    | nan origin => simp [equal, rank?, Value.wholeNumber?, Double.isWhole]

theorem Number.equal_int (n k : Int) : Number.equal (.int n) (.int k) = decide (n = k) := by
  rw [Bool.eq_iff_iff, Number.equal_int_iff]
  simp [Value.wholeNumber?, eq_comm]

theorem Number.less_int (n k : Int) : Number.less (.int n) (.int k) = decide (n < k) := by
  have one : 0 < (Double.unitsPerOne : Int) := Int.natCast_pos.2 Double.unitsPerOne_pos
  have scaled : n * Double.unitsPerOne < k * Double.unitsPerOne ↔ n < k :=
    Int.mul_lt_mul_right one
  simp [less, rank?, scaled]

/-! ## Section 2: Lists of integers -/

namespace Native

theorem equal_int (n : Int) (b : Native) :
    equal (.int n) b = b.wrap >>= fun v => pure (equalAtom (.int n) v) := by
  rw [equal]
  · rfl
  all_goals
    intros
    contradiction

/-- Integers are compared with data as the items of a list are. -/
theorem equalItems_ints (ns : List Int) (bs : List Native) :
    equalItems (ns.map .int) bs = equalMembers ns bs := by
  induction ns generalizing bs with
  | nil =>
    rw [List.map_nil, equalItems, equalMembers]
    all_goals
      intros
      contradiction
  | cons n ns ih =>
    cases bs with
    | nil =>
      rw [List.map_cons, equalItems, equalMembers]
      all_goals
        intros
        contradiction
    | cons b bs =>
      rw [List.map_cons, equalItems, equalMembers, equal_int, bind_assoc, ih]
      apply bind_congr
      intro v
      rw [pure_bind]
      cases v <;> rfl

/-- Lists of integers of one length are equal exactly if they are the same. -/
theorem equalMembers_ints {ns ks : List Int} (h : ns.length = ks.length) :
    equalMembers ns (ks.map .int) = .ok (decide (ns = ks)) := by
  induction ns generalizing ks with
  | nil =>
    have none : ks = [] := List.length_eq_zero_iff.1 h.symm
    subst none
    rw [List.map_nil, equalMembers]
    · rfl
    · intros
      contradiction
  | cons n ns ih =>
    cases ks with
    | nil => cases h
    | cons k ks =>
      have wrapped : (Native.int k).wrap = .ok (.number (.int k)) := rfl
      rw [List.map_cons, equalMembers, wrapped]
      show (if Number.equal (.int n) (.int k) = true then equalMembers ns (ks.map .int)
        else .ok false) = _
      rw [Number.equal_int, ih (Nat.succ.inj h)]
      by_cases same : n = k <;> simp [same]

theorem printItems_ints (ns : List Int) : printItems (ns.map .int) = ns.mapM writeInt := by
  induction ns with
  | nil => rfl
  | cons n ns ih =>
    rw [List.map_cons, printItems, printAs, ih, List.mapM_cons]

end Native

namespace Value

/-- Data are wrapped one after another exactly if each of them is. -/
theorem wrapAll_eq_ok_iff {ns : List Native} {vs : List Value} :
    wrapAll ns = .ok vs ↔ List.Forall₂ (fun n v => n.wrap = .ok v) ns vs := by
  induction ns generalizing vs with
  | nil =>
    rw [wrapAll, List.forall₂_nil_left_iff, Except.ok.injEq, eq_comm]
  | cons n ns ih =>
    rw [wrapAll, List.forall₂_cons_left_iff]
    constructor
    · intro wrapped
      obtain ⟨v, first, wrapped⟩ := eq_ok_of_bind wrapped
      obtain ⟨others, later, rfl⟩ := eq_ok_of_bind_pure wrapped
      exact ⟨v, others, first, ih.1 later, rfl⟩
    · rintro ⟨v, others, first, later, rfl⟩
      rw [first, ih.2 later]
      rfl

theorem wrapAll_ints (ns : List Int) : wrapAll (ns.map .int) = .ok (ns.map (ofInt ·)) := by
  induction ns with
  | nil => rfl
  | cons n ns ih =>
    rw [List.map_cons, wrapAll, ih]
    rfl

/-- A list of integers contains the number that stands for one of them, and
    nothing that is no number. -/
theorem memItems_ints (ns : List Int) (v : Value) :
    memItems (ns.map .int) v = .ok (match v with
      | .number m => ns.any fun n => Number.equal (.int n) m
      | _ => false) := by
  induction ns with
  | nil => cases v <;> rfl
  | cons n ns ih =>
    rw [List.map_cons, memItems, Native.equal_int, wrap_native, ih]
    show (if Native.equalAtom (.int n) v = true then Except.ok true else _) = _
    cases v with
    | number m => by_cases here : Number.equal (.int n) m = true <;> simp [Native.equalAtom, here]
    | _ => rfl

end Value

/-! ## Section 3: A range and its list -/

/-- The sequence of the members of a progression. -/
def Progression.listed (r : Progression) : Value :=
  .sequence (r.members.map .int)

/-- Do two values give the same answers, and print the same text? -/
structure Value.Alike (v w : Value) : Prop where
  equal_left : ∀ u, v.equal u = w.equal u
  equal_right : ∀ u : Value, u.equal v = u.equal w
  contains : ∀ u, v.contains u = w.contains u
  truth : v.truth = w.truth
  property : ∀ name, v.property name = w.property name
  index : ∀ key, v.index key = w.index key
  iterate : v.iterate = w.iterate
  print : v.native.print = w.native.print

namespace Progression

variable {r : Progression}

theorem count_eq (h : r.length ≤ countLimit) : r.count = .ok r.length :=
  if_pos h

theorem count_eq_error (h : ¬ r.length ≤ countLimit) :
    r.count = .error (.operand .lengthTooLarge) :=
  if_neg h

theorem length_listed (r : Progression) : (r.members.map Native.int).length = r.length := by
  simp

/-- Ranges of one length are equal exactly if their lists are. -/
theorem equalItems_listed {r s : Progression} (h : r.length = s.length) :
    Native.equalItems (r.members.map .int) (s.members.map .int) = .ok (r.same s) := by
  rw [Native.equalItems_ints, Native.equalMembers_ints (by simpa using h)]
  congr 1
  rw [Bool.eq_iff_iff, same_iff, decide_eq_true_eq]

theorem same_of_length_ne {r s : Progression} (h : r.length ≠ s.length) : r.same s = false := by
  simp [same, h]

/-- A range that can be counted is equal to what its list is equal to. -/
theorem equal_left (h : r.length ≤ countLimit) (u : Value) :
    (Value.range r).equal u = r.listed.equal u := by
  show Native.equal (.range r) u.native = Native.equal (.list _) u.native
  rw [Native.equal, Native.equal, Value.wrap_native]
  cases u with
  | sequence bs =>
    show (r.count >>= fun n => if n = bs.length then Native.equalMembers r.members bs else _) =
      if _ = bs.length then Native.equalItems _ bs else _
    rw [count_eq h, length_listed, Native.equalItems_ints]
    rfl
  | bytes bs =>
    show (r.count >>= fun n => if n = bs.length then Native.equalMembers r.members _ else _) =
      if _ = bs.length then Native.equalItems _ _ else _
    rw [count_eq h, length_listed, Native.equalItems_ints]
    rfl
  | range s =>
    show (r.count >>= fun _ => s.count >>= fun _ => pure (r.same s)) =
      s.count >>= fun n => if _ = n then Native.equalItems _ _ else _
    rw [count_eq h, length_listed]
    -- both come to the count of the other range, which may fail
    by_cases counted : s.length ≤ countLimit
    · rw [count_eq counted]
      show Except.ok (r.same s) = if r.length = s.length then _ else Except.ok false
      by_cases long : r.length = s.length
      · rw [if_pos long, equalItems_listed long]
      · rw [if_neg long, same_of_length_ne long]
    · rw [count_eq_error counted]
      rfl
  | _ => rfl

/-- What is equal to a range that can be counted is equal to its list. -/
theorem equal_right (h : r.length ≤ countLimit) (u : Value) :
    u.equal (.range r) = u.equal r.listed := by
  show Native.equal u.native (.range r) = Native.equal u.native (.list _)
  -- what has no members is not equal to either of them
  cases u with
  | sequence as =>
    show Native.equal (.list as) _ = Native.equal (.list as) _
    rw [Native.equal, Native.equal]
    show (r.count >>= fun n => if as.length = n then Native.equalItems as _ else _) =
      if as.length = _ then Native.equalItems as _ else _
    rw [count_eq h, length_listed]
    rfl
  | bytes as =>
    show Native.equal (.bytes as) _ = Native.equal (.bytes as) _
    rw [Native.equal, Native.equal]
    show (r.count >>= fun n => if as.length = n then Native.equalMembers _ _ else _) =
      if as.length = _ then Native.equalMembers _ _ else _
    rw [count_eq h, length_listed]
    rfl
  | range s =>
    show Native.equal (.range s) _ = Native.equal (.range s) _
    rw [Native.equal, Native.equal]
    show (s.count >>= fun _ => r.count >>= fun _ => pure (s.same r)) =
      s.count >>= fun n => if n = _ then Native.equalMembers _ _ else _
    rw [count_eq h, length_listed]
    -- a range that is too long to be counted is compared with neither
    by_cases counted : s.length ≤ countLimit
    · rw [count_eq counted]
      show Except.ok (s.same r) = if s.length = r.length then _ else Except.ok false
      by_cases long : s.length = r.length
      · rw [if_pos long, ← Native.equalItems_ints, equalItems_listed long]
      · rw [if_neg long, same_of_length_ne long]
    · rw [count_eq_error counted]
      rfl
  | mapping entries =>
    show Native.equal (.dict entries) _ = Native.equal (.dict entries) _
    rw [Native.equal, Native.equal]
    rfl
  | number n => cases n <;> rfl
  | _ => rfl

/-- Membership by arithmetic is membership in the list. -/
theorem contains_eq (r : Progression) (u : Value) :
    (Value.range r).contains u = r.listed.contains u := by
  show _ = Value.memItems _ u
  rw [Value.memItems_ints]
  cases u with
  | number m =>
    have listed : ((Value.wholeNumber? m).map r.mem).getD false =
        r.members.any fun n => Number.equal (.int n) m := by
      rw [Bool.eq_iff_iff, List.any_eq_true]
      simp only [Number.equal_int_iff]
      cases whole : Value.wholeNumber? m with
      | none => simp
      | some k => simp [mem_iff]
    exact congrArg Except.ok listed
  | _ => rfl

theorem truth_eq (h : r.length ≤ countLimit) :
    (Value.range r).truth = r.listed.truth := by
  show r.count.map _ = .ok _
  rw [count_eq h]
  show Except.ok (decide (r.length > 0)) = .ok (!(r.members.map Native.int).isEmpty)
  congr 1
  rw [Bool.eq_iff_iff]
  simp [members_eq_nil_iff, Nat.pos_iff_ne_zero]

theorem wrapMember_listed (r : Progression) (i : Nat) :
    Value.wrapMember (r.members.map Native.int)[i]? =
      .ok (if i < r.length then Value.ofInt (r.get i) else .nil) := by
  rw [List.getElem?_map]
  by_cases inside : i < r.length
  · rw [getElem?_members r inside, if_pos inside]
    rfl
  · rw [List.getElem?_eq_none (by simpa using inside), if_neg inside]
    rfl

theorem property_eq (h : r.length ≤ countLimit) (name : String) :
    (Value.range r).property name = r.listed.property name := by
  by_cases size : name = "size"
  · subst size
    have counted : r.listed.property "size" = .ok (.ofInt (r.members.map Native.int).length) := rfl
    rw [counted, length_listed]
    show Except.map _ (r.count >>= _) = _
    rw [count_eq h]
    rfl
  by_cases first : name = "first"
  · subst first
    show r.count.map _ = Value.wrapMember (r.members.map Native.int).head?
    rw [count_eq h, List.head?_eq_getElem?, wrapMember_listed]
    show Except.ok (if r.length = 0 then _ else _) = _
    by_cases empty : r.length = 0 <;> simp [empty, Nat.pos_iff_ne_zero]
  by_cases last : name = "last"
  · subst last
    show r.count.map _ = Value.wrapMember (r.members.map Native.int).getLast?
    rw [count_eq h, List.getLast?_eq_getElem?, length_listed, wrapMember_listed]
    show Except.ok (if r.length = 0 then _ else _) = _
    by_cases empty : r.length = 0
    · simp [empty]
    · rw [if_neg empty, if_pos (by omega)]
  -- any other property is missing from both
  · rw [listed, Value.property, Value.property, Value.itemsProperty] <;> simp_all

theorem position?_lt {length : Nat} {n : Int} {i : Nat}
    (h : Value.position? length n = some i) : i < length := by
  unfold Value.position? at h
  split at h
  · split at h <;> cases h
    omega
  · split at h <;> cases h
    omega

theorem index_eq (h : r.length ≤ countLimit) (key : Value) :
    (Value.range r).index key = r.listed.index key := by
  cases key with
  | number k =>
    rw [listed, Value.index, Value.index, Value.itemAt, count_eq h, length_listed]
    cases whole : Value.wholeNumber? k with
    | none => rfl
    | some n =>
      simp only [Option.bind_some, Except.map]
      cases found : Value.position? r.length n with
      | none => rfl
      | some i =>
        simp only
        rw [wrapMember_listed, if_pos (position?_lt found)]
  | _ => rfl

theorem iterate_eq (r : Progression) : (Value.range r).iterate = r.listed.iterate := by
  show Except.ok _ = Value.wrapAll _
  rw [Value.wrapAll_ints]

theorem print_eq (r : Progression) :
    (Value.range r).native.print = r.listed.native.print := by
  show Native.printAs false (.range r) = Native.printAs false (.list _)
  rw [Native.printAs, Native.printAs, Native.printItems_ints]

/-- A range that can be counted answers as its list does. -/
theorem alike_listed (h : r.length ≤ countLimit) : (Value.range r).Alike r.listed :=
  ⟨equal_left h, equal_right h, r.contains_eq, truth_eq h, property_eq h, index_eq h,
    r.iterate_eq, r.print_eq⟩

end Progression

/-! ## Section 4: Loops over a range -/

namespace Value.Source

/-- The data that a loop walks along, in order. -/
def data : Source → List Native
  | .items ns => ns
  | .range r => r.members.map .int

theorem data_drop (s : Source) (n : Nat) : (s.drop n).data = s.data.drop n := by
  cases s with
  | items ns => rfl
  | range r => simp [drop, data, Progression.members_drop]

theorem data_take (s : Source) (n : Nat) : (s.take n).data = s.data.take n := by
  cases s with
  | items ns => rfl
  | range r => simp [take, data, Progression.members_take]

theorem data_reverse (s : Source) : s.reverse.data = s.data.reverse := by
  cases s with
  | items ns => rfl
  | range r => simp [reverse, data, Progression.members_reverse]

end Value.Source

namespace LoopHeader

/-- What is left of data by an offset, a limit and a reversal. -/
def kept (reversed : Bool) (offset limit : Option Nat) (ns : List Native) : List Native :=
  let later := ns.drop (offset.getD 0)
  let front := limit.elim later later.take
  if reversed then front.reverse else front

/-- Which of its data a loop walks along does not depend on the form of its
    source: the counts of the modifiers alone decide. -/
theorem walked_data {filters : Registry} {names : Names} {h : LoopHeader} {v : Value}
    {all : Value.Source} (found : h.source.eval filters names = .ok v) (source : v.source = .ok all) :
    (h.walked filters names).map Value.Source.data =
      modifierCount filters names "offset" h.offset >>= fun offset =>
        modifierCount filters names "limit" h.limit >>= fun limit =>
          .ok (kept h.reversed offset limit all.data) := by
  unfold walked
  rw [found]
  show Except.map _ (v.source >>= _) = _
  rw [source]
  cases modifierCount filters names "offset" h.offset with
  | error fault => rfl
  | ok offset =>
    cases modifierCount filters names "limit" h.limit with
    | error fault => rfl
    | ok limit =>
      show Except.ok (Value.Source.data (if h.reversed = true then _ else _)) = _
      congr 1
      -- no offset is an offset of zero, which drops nothing
      rcases offset with _ | _ | n <;> cases limit <;> cases h.reversed <;>
        simp [kept, Value.Source.data_drop, Value.Source.data_take, Value.Source.data_reverse]

end LoopHeader

/-- A range whose members can be counted behaves as the sequence of them: every
    operation on values gives the same results for both, also where it fails,
    and a loop over either walks along the same data in the same order,
    whatever its offset, limit and reversal are. -/
theorem Value.range_behaves (r : Progression) (h : r.length ≤ countLimit) :
    (Value.range r).Alike r.listed ∧
      ∀ (filters : Registry) (names : Names) (header : LoopHeader) (lazy listed : Expr),
        lazy.eval filters names = .ok (.range r) → listed.eval filters names = .ok r.listed →
        ({ header with source := lazy }.walked filters names).map Value.Source.data =
          ({ header with source := listed }.walked filters names).map Value.Source.data := by
  refine ⟨Progression.alike_listed h, ?_⟩
  intro filters names header lazy listed hlazy hlisted
  rw [LoopHeader.walked_data hlazy rfl, LoopHeader.walked_data hlisted rfl]
  rfl

/-- The odd numbers from 9 down to 1. -/
def oddsDown : Progression :=
  ⟨9, 0, -2, by decide⟩

/-- Of the odd numbers, in a range or in a list, a reversed loop with offset
    one and limit three walks along 3, 5 and 7. -/
theorem oddsDown_behaves : oddsDown.length ≤ countLimit ∧
    (Value.range oddsDown).Alike oddsDown.listed ∧
    ∀ source ∈ ["lazy", "listed"],
      (LoopHeader.walked (Filter.standard true)
        (fun name => .ok (if name = "lazy" then .range oddsDown else oddsDown.listed.native))
        ⟨"x", .var source, true, some (.literal (.int 3)), some (.literal (.int 1)), none⟩).map
          Value.Source.data = .ok [.int 3, .int 5, .int 7] := by
  have counted : oddsDown.length ≤ countLimit := by decide
  let names : Names :=
    fun name => .ok (if name = "lazy" then .range oddsDown else oddsDown.listed.native)
  let header : LoopHeader :=
    ⟨"x", .var "listed", true, some (.literal (.int 3)), some (.literal (.int 1)), none⟩
  obtain ⟨alike, loops⟩ := Value.range_behaves oddsDown counted
  have same := loops (Filter.standard true) names header (.var "lazy") (.var "listed") rfl rfl
  have walked : (header.walked (Filter.standard true) names).map Value.Source.data =
      .ok [.int 3, .int 5, .int 7] := rfl
  refine ⟨counted, alike, ?_⟩
  rw [List.forall_mem_cons, List.forall_mem_singleton]
  exact ⟨same.trans walked, walked⟩

end Stencil
