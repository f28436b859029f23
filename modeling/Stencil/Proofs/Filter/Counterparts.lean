import Stencil.Proofs.Filter.Invoke
import Stencil.Proofs.Loop.Modifiers
import Stencil.Proofs.Template.Collection
import Stencil.Proofs.Template.Substitution

/-! # Filters and what values answer

    Filters work on native data, everything else on values, so some
    questions can be asked in two ways: the fallback of a filter is that of
    a condition, the filters for the size and the ends of a collection are
    its properties and its items at an index, and a filter turns a
    collection around as a loop does.  Both ways lead to one answer, but
    for the size of bytes, which the filter does not count. -/

namespace Stencil

/-! ## Section 1: Results of filters -/

/-- Does a datum know where it comes from?  Only what is not a number, as long
    as the filter that has computed it has not ended, does not. -/
def Native.Located (n : Native) : Prop :=
  n ≠ .float (.nan .fresh)

namespace Registry

variable {name : String} {site : Double.Site}

theorem conclude_located {n : Native} (located : n.Located) :
    conclude name site (.ok n) = n.wrap := by
  show (n.locate site).wrap = _
  rw [n.locate_eq_self located]

theorem conclude_native {v : Value} (located : v.native.Located) :
    conclude name site (.ok v.native) = .ok v := by
  rw [conclude_located located, v.wrap_native]

/-- A filter that picks an item, or nil if there is none, gives the member that
    values give. -/
theorem conclude_picked {picked : Option Native} (located : ∀ n ∈ picked, n.Located) :
    conclude name site (.ok (picked.getD .nil)) = Value.wrapMember picked := by
  cases picked with
  | none => rfl
  | some n => exact conclude_located (located n rfl)

end Registry

/-! ## Section 2: Fallbacks -/

/-- Can the members of a value be counted, if it is a range? -/
def Value.Counted : Value → Prop
  | .range r => r.length ≤ countLimit
  | _ => True

theorem Value.Counted.exists_truth {v : Value} (h : v.Counted) : ∃ t, v.truth = .ok t := by
  cases v with
  | range r =>
    refine ⟨decide (r.length > 0), ?_⟩
    show r.count.map _ = _
    rw [Progression.count_eq h]
    rfl
  | _ => exact ⟨_, rfl⟩

namespace Filter

/-- What a fallback replaces is what counts as false. -/
theorem default_natives {v : Value} {t : Bool} (decides : v.truth = .ok t) (w : Value) :
    default v.native w.native = .ok (if t then v else w).native := by
  cases v with
  | nil =>
    cases decides
    rfl
  | boolean b =>
    obtain rfl : b = t := Except.ok.inj decides
    cases b <;> rfl
  | number n =>
    cases decides
    cases n <;> rfl
  | string s =>
    cases decides
    show Except.ok (if s.length = 0 then _ else _) = _
    by_cases empty : s = "" <;> simp [empty]
  | sequence ns =>
    cases decides
    show Except.ok (if ns.length = 0 then _ else _) = _
    cases ns <;> rfl
  | bytes bs =>
    cases decides
    show Except.ok (if bs.length = 0 then _ else _) = _
    cases bs <;> rfl
  | mapping entries =>
    cases decides
    show Except.ok (if entries.length = 0 then _ else _) = _
    cases entries <;> rfl
  | range r =>
    -- a range that cannot be counted has no truth value
    rw [Value.truth] at decides
    by_cases counted : r.length ≤ countLimit
    · rw [Progression.count_eq counted] at decides
      cases decides
      show Except.map _ (if r.length ≤ countLimit then _ else _) = _
      rw [if_pos counted]
      show Except.ok (if r.length = 0 then _ else _) = _
      by_cases empty : r.length = 0 <;> simp [empty, Nat.pos_iff_ne_zero]
    · rw [Progression.count_eq_error counted] at decides
      cases decides

end Filter

theorem Registry.invoke_default (strict : Bool) (site : Double.Site) {v w : Value} {t : Bool}
    (decides : v.truth = .ok t) (hv : v.native.Located) (hw : w.native.Located) :
    (standardAt strict site).invoke "default" v [w] = .ok (if t then v else w) := by
  show conclude "default" site ((Filter.default v.native w.native).mapError .operand) = _
  rw [Filter.default_natives decides]
  apply conclude_native
  cases t with
  | true => exact hv
  | false => exact hw

/-! ## Section 3: Collections -/

/-- The number of items that a list has room for at most. -/
def listLimit : Nat := Nat.pow 2 60 - 2

theorem listLimit_le_countLimit : listLimit ≤ countLimit := by
  decide

namespace Native.IsCollection

variable {v : Value} {ns : List Native} {vs : List Value}

/-- A collection answers as the sequence of its items. -/
theorem alike (h : v.native.IsCollection ns) (counted : ns.length ≤ countLimit) :
    v.Alike (.sequence ns) := by
  cases v with
  | sequence ms =>
    cases h
    exact ⟨fun _ => rfl, fun _ => rfl, fun _ => rfl, rfl, fun _ => rfl, fun _ => rfl, rfl, rfl⟩
  | bytes bs =>
    cases h
    exact Value.bytes_alike bs
  | range r =>
    cases h
    exact Progression.alike_listed (r.length_listed ▸ counted)
  | number n => cases n <;> cases h
  | _ => cases h

/-- The members of every collection but bytes are counted. -/
theorem size_eq {n : Native} (h : n.IsCollection ns) (counted : ns.length ≤ countLimit)
    (other : ∀ bs, n ≠ .bytes bs) : Filter.size n = .ok (.int ns.length) := by
  cases h with
  | list => rfl
  | bytes bs => exact absurd rfl (other bs)
  | range r =>
    rw [r.length_listed] at counted ⊢
    have counts : Filter.length? (.range r) = some (.ok r.length) :=
      congrArg some (if_pos counted)
    rw [Filter.size, counts]
    · rfl
    · exact other

theorem first_eq {n : Native} (h : n.IsCollection ns) (counted : ns.length ≤ countLimit) :
    Filter.first n = .ok (ns.head?.getD .nil) := by
  rw [Filter.first, h.items counted]
  rfl

theorem last_eq {n : Native} (h : n.IsCollection ns) (counted : ns.length ≤ countLimit) :
    Filter.last n = .ok (ns.getLast?.getD .nil) := by
  rw [Filter.last, h.items counted]
  rfl

theorem reverse_eq {n : Native} (h : n.IsCollection ns) (counted : ns.length ≤ countLimit) :
    Filter.reverse n = .ok (.list ns.reverse) := by
  rw [Filter.reverse, h.items counted]
  rfl

end Native.IsCollection

namespace Value

variable {ns : List Native} {vs : List Value}

theorem length_of_wrapAll (wrapped : wrapAll ns = .ok vs) : ns.length = vs.length :=
  (wrapAll_eq_ok_iff.1 wrapped).length_eq

theorem wrapMember_head? (wrapped : wrapAll ns = .ok vs) :
    wrapMember ns.head? = .ok (vs.head?.getD .nil) := by
  cases wrapAll_eq_ok_iff.1 wrapped with
  | nil => rfl
  | cons first _ => exact first

theorem wrapAll_reverse (wrapped : wrapAll ns = .ok vs) : wrapAll ns.reverse = .ok vs.reverse :=
  wrapAll_eq_ok_iff.2 (List.forall₂_reverse_iff.2 (wrapAll_eq_ok_iff.1 wrapped))

theorem wrapMember_getLast? (wrapped : wrapAll ns = .ok vs) :
    wrapMember ns.getLast? = .ok (vs.getLast?.getD .nil) := by
  rw [← List.head?_reverse, ← List.head?_reverse]
  exact wrapMember_head? (wrapAll_reverse wrapped)

theorem index_of_position {ns : List Native} {k : Int} {i : Nat}
    (found : position? ns.length k = some i) :
    (sequence ns).index (ofInt k) = wrapMember ns[i]? := by
  rw [ofInt, index, itemAt, wholeNumber?, Option.bind_some, found]

/-- The item at index zero is the first one. -/
theorem index_zero (ns : List Native) :
    (sequence ns).index (ofInt 0) = (sequence ns).property "first" := by
  cases ns with
  | nil => rfl
  | cons n ns =>
    have here : position? (n :: ns).length 0 = some 0 := by
      rw [position?, if_pos (Int.le_refl 0), if_pos (by simp)]
      rfl
    exact index_of_position here

/-- The item at index minus one is the last one. -/
theorem index_minusOne (ns : List Native) :
    (sequence ns).index (ofInt (-1)) = (sequence ns).property "last" := by
  cases ns with
  | nil => rfl
  | cons n ms =>
    have here : position? (n :: ms).length (-1) = some ms.length := by
      have inside : -((n :: ms).length : Int) ≤ -1 := by
        rw [List.length_cons]
        omega
      rw [position?, if_neg (by decide), if_pos inside, List.length_cons]
      congr 1
      omega
    show _ = wrapMember (n :: ms).getLast?
    rw [index_of_position here, List.getLast?_eq_getElem?]
    rfl

/-- Do the properties of a collection and its items at an index speak of the
    values that it consists of? -/
structure Consists (v : Value) (vs : List Value) : Prop where
  size : v.property "size" = .ok (ofInt vs.length)
  first : v.property "first" = .ok (vs.head?.getD .nil)
  last : v.property "last" = .ok (vs.getLast?.getD .nil)
  first_index : v.index (ofInt 0) = v.property "first"
  last_index : v.index (ofInt (-1)) = v.property "last"

/-- Does the filter for the size give the property?  Of bytes nothing is
    counted. -/
structure Sizes (r : Registry) (v : Value) : Prop where
  bytes : ∀ bs, v = .bytes bs → r.invoke "size" v [] = .ok (ofInt 0)
  other : (∀ bs, v ≠ .bytes bs) → r.invoke "size" v [] = v.property "size"

/-- Does whatever lists the items of a collection speak of the values that it
    consists of?  The filters for its ends give its properties, and the filter
    for its reversal what a reversed loop over it visits. -/
structure Answers (r : Registry) (v : Value) (vs : List Value) : Prop where
  iterate : v.iterate = .ok vs
  first : r.invoke "first" v [] = v.property "first"
  last : r.invoke "last" v [] = v.property "last"
  reversed : ∃ w, r.invoke "reverse" v [] = .ok w ∧ w.iterate = .ok vs.reverse
  loop : ∀ (filters : Registry) (names : Names) (h : LoopHeader),
    h.source.eval filters names = .ok v → h.reversed = true → h.offset = none → h.limit = none →
      h.items filters names = .ok vs.reverse

end Value

section

variable {v : Value} {ns : List Native} {vs : List Value}

theorem LoopHeader.items_reversed {filters : Registry} {names : Names} {h : LoopHeader}
    (found : h.source.eval filters names = .ok v) (iterated : v.iterate = .ok vs)
    (reversed : h.reversed = true) (offset : h.offset = none) (limit : h.limit = none) :
    h.items filters names = .ok vs.reverse := by
  have items : h.items filters names = .ok (remaining h.reversed none none vs) := by
    refine h.items_of_iterate found iterated ?_ ?_
    · rw [offset]
      rfl
    · rw [limit]
      rfl
  rw [items, reversed]
  rfl

namespace Native.IsCollection

theorem consists (h : v.native.IsCollection ns) (counted : ns.length ≤ countLimit)
    (wrapped : Value.wrapAll ns = .ok vs) : v.Consists vs := by
  have alike := h.alike counted
  constructor
  case size =>
    rw [alike.property, ← Value.length_of_wrapAll wrapped]
    rfl
  case first => exact (alike.property "first").trans (Value.wrapMember_head? wrapped)
  case last => exact (alike.property "last").trans (Value.wrapMember_getLast? wrapped)
  case first_index => rw [alike.index, alike.property, Value.index_zero]
  case last_index => rw [alike.index, alike.property, Value.index_minusOne]

variable (strict : Bool) (site : Double.Site)

theorem sizes (h : v.native.IsCollection ns) (counted : ns.length ≤ countLimit) :
    v.Sizes (Registry.standardAt strict site) where
  bytes := by
    rintro bs rfl
    rfl
  other := by
    intro others
    have native : ∀ bs, v.native ≠ .bytes bs := by
      intro bs same
      cases v with
      | bytes cs => exact others cs rfl
      | number n => cases n <;> cases same
      | _ => cases same
    show Registry.conclude "size" site ((Filter.size v.native).mapError .operand) = _
    rw [h.size_eq counted native, (h.alike counted).property]
    rfl

theorem answers (h : v.native.IsCollection ns) (room : ns.length ≤ listLimit)
    (wrapped : Value.wrapAll ns = .ok vs) (located : ∀ n ∈ ns, n.Located) :
    v.Answers (Registry.standardAt strict site) vs := by
  have counted : ns.length ≤ countLimit := Nat.le_trans room listLimit_le_countLimit
  have alike := h.alike counted
  have iterate : v.iterate = .ok vs := alike.iterate.trans wrapped
  constructor
  case iterate => exact iterate
  case first =>
    show Registry.conclude "first" site ((Filter.first v.native).mapError .operand) = _
    rw [h.first_eq counted, alike.property]
    exact Registry.conclude_picked fun n hn => located n (List.mem_of_mem_head? hn)
  case last =>
    show Registry.conclude "last" site ((Filter.last v.native).mapError .operand) = _
    rw [h.last_eq counted, alike.property]
    exact Registry.conclude_picked fun n hn => located n (List.mem_of_getLast? hn)
  case reversed =>
    refine ⟨.sequence ns.reverse, ?_, Value.wrapAll_reverse wrapped⟩
    show Registry.conclude "reverse" site ((Filter.reverse v.native).mapError .operand) = _
    rw [h.reverse_eq counted]
    rfl
  case loop =>
    intro filters names header found reversed offset limit
    exact LoopHeader.items_reversed found iterate reversed offset limit

end Native.IsCollection

end

end Stencil
