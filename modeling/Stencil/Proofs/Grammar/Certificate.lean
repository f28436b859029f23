import Stencil.Proofs.Grammar.First

/-! # The automaton is checked

    What the proofs about parsing need to know of the automaton, as a check
    that is evaluated once.  The items of each state are closed: where one
    goes on with a nonterminal, the productions of that nonterminal are
    items too.  Every item can go on, and keeps its followers; every item
    that has come to its end is carried out before any of its followers,
    with one exception: between the arguments of a filter and a comma the
    automaton reads on.  And no state holds items that its predecessors do
    not give it. -/

namespace Stencil.Grammar

/-! ## Section 1: The parts of the check -/

/-- The state of a number. -/
def stateAt (q : Nat) : State :=
  states.getD q ⟨[], []⟩

/-- The kernel of a state, with what may follow its items. -/
def kernelAt (q : Nat) : Followed :=
  kernels.getD q []

/-- All items of a state, with what may follow them. -/
def itemsAt (q : Nat) : Followed :=
  followItems (kernelAt q)

/-- What to do at the end of a production. -/
def finish (p : Production) : Action :=
  if p = .root then .accept else .reduce p

/-- Does the automaton read on where a production could end?  Only at a
    comma after the arguments of a filter. -/
def Production.contested (p : Production) (t : Terminal) : Bool :=
  (p.lhs = .arguments) && t = .operator .comma

/-- Is there an item with at least the given followers? -/
def lists (items : Followed) (i : Item) (set : TerminalSet) : Bool :=
  items.any fun (k, known) => k = i && set.within known

/-- Is every nonterminal after a dot pending, with what may follow it? -/
def pendingComplete (items : Followed) (pending : List (Nonterminal × TerminalSet)) : Bool :=
  items.all fun (i, set) =>
    match i.rest with
    | .nonterminal n :: rest =>
      pending.any fun (m, known) =>
        m = n && ((firsts.ofSymbols rest).andThen ⟨false, set⟩).first.within known
    | _ => true

/-- Does every item have a state to go on in? -/
def edgesComplete (state : State) (items : Followed) : Bool :=
  items.all fun (i, set) =>
    match i.rest with
    | [] => true
    | s :: _ =>
      match state.target? s with
      | some target => lists (kernelAt target) i.advance set
      | none => false

/-- Is every item at its end carried out before each of its followers? -/
def endsComplete (state : State) (items : Followed) : Bool :=
  items.all fun (i, set) =>
    match i.rest with
    | [] => terminals.all fun t =>
        !set.mem t || i.production.contested t || actionOf state items t = some (finish i.production)
    | _ :: _ => true

/-- Does only the end of the input follow a whole statement? -/
def acceptsAtEnd (items : Followed) : Bool :=
  items.all fun (i, set) =>
    !(i.rest.isEmpty && i.production = .root) || set.within (.single .endOfInput)

/-- Nonterminals after which nothing is read: they end what they stand in,
    and they may be empty. -/
def Symbol.isLast : Symbol → Bool
  | .nonterminal n => n = .cycleRest || n = .cycleTail || n = .alternatives
  | .terminal _ => false

/-- Do all items of the states that a state leads to come from it? -/
def edgesSound (state : State) (items : Followed) : Bool :=
  state.targets.all fun (s, target) =>
    !(kernelAt target).isEmpty &&
      ((kernelAt target).all fun (k, _) => items.any fun (i, _) => i.expects s && i.advance = k) &&
      (!Symbol.isLast s || (stateAt target).targets.isEmpty)

/-- The check of a state. -/
def checkState (state : State) (kernel : Followed) : Bool :=
  pendingComplete (followItems kernel) (followPending kernel) &&
    edgesComplete state (followItems kernel) && endsComplete state (followItems kernel) &&
    acceptsAtEnd (followItems kernel) && edgesSound state (followItems kernel)

/-- The check of the automaton. -/
def automatonChecked : Bool :=
  decide (kernels.length = states.length) &&
    ((states.zip kernels).all fun (state, kernel) => checkState state kernel) &&
    lists (kernelAt 0) ⟨.root, 0⟩ (.single .endOfInput) &&
    ((kernelAt 0).all fun (i, _) => i = ⟨.root, 0⟩)

theorem automaton_checked : automatonChecked = true := by
  decide +kernel

/-! ## Section 2: Numbers of symbols -/

theorem mem_terminals (t : Terminal) : t ∈ terminals := by
  cases t with
  | selector s => cases s <;> decide
  | operator o => cases o <;> decide
  | _ => decide

theorem mem_symbols (s : Symbol) : s ∈ symbols := by
  cases s with
  | terminal t => exact List.mem_append_left _ (List.mem_map_of_mem (mem_terminals t))
  | nonterminal n =>
    refine List.mem_append_right _ (List.mem_map_of_mem ?_)
    cases n <;> decide

theorem symbolIndex_injective {r s : Symbol} (h : symbolIndex r = symbolIndex s) : r = s := by
  have all : ∀ r ∈ symbols, ∀ s ∈ symbols, symbolIndex r = symbolIndex s → r = s := by
    decide +kernel
  exact all r (mem_symbols r) s (mem_symbols s) h

theorem Item.expects_iff {i : Item} {s : Symbol} :
    i.expects s = true ↔ ∃ rest, i.rest = s :: rest := by
  unfold Item.expects
  cases i.rest with
  | nil => simp
  | cons next rest =>
    constructor
    · intro h
      exact ⟨rest, by rw [symbolIndex_injective (Nat.eq_of_beq_eq_true h)]⟩
    · rintro ⟨rest, h⟩
      rw [(List.cons.inj h).1]
      exact Nat.beq_refl _

theorem State.mem_targets {state : State} {s : Symbol} {q : Nat} (h : state.target? s = some q) :
    (s, q) ∈ state.targets := by
  obtain ⟨⟨r, q'⟩, found, rfl⟩ := Option.map_eq_some_iff.1 h
  have same := List.find?_some found
  rw [← symbolIndex_injective (Nat.eq_of_beq_eq_true same)]
  exact List.mem_of_find?_eq_some found

/-! ## Section 3: What the parts of the check say -/

theorem lists_iff {items : Followed} {i : Item} {set : TerminalSet} :
    lists items i set = true ↔ ∃ known, (i, known) ∈ items ∧ set.within known := by
  simp only [lists, List.any_eq_true, Prod.exists, Bool.and_eq_true, decide_eq_true_eq]
  constructor
  · rintro ⟨k, known, member, rfl, within⟩
    exact ⟨known, member, within⟩
  · rintro ⟨known, member, within⟩
    exact ⟨i, known, member, rfl, within⟩

section

variable {state : State} {items : Followed} {i : Item} {set : TerminalSet} {rest : List Symbol}

theorem mem_of_pendingComplete {pending : List (Nonterminal × TerminalSet)} {n : Nonterminal}
    (checked : pendingComplete items pending = true) (h : (i, set) ∈ items)
    (hr : i.rest = .nonterminal n :: rest) :
    ∃ known, (n, known) ∈ pending ∧
      ((firsts.ofSymbols rest).andThen ⟨false, set⟩).first.within known := by
  have found := List.all_eq_true.1 checked (i, set) h
  simp only [hr, List.any_eq_true, Bool.and_eq_true, decide_eq_true_eq] at found
  obtain ⟨⟨m, known⟩, hm, rfl, within⟩ := found
  exact ⟨known, hm, within⟩

theorem target_of_edgesComplete {s : Symbol} (checked : edgesComplete state items = true)
    (h : (i, set) ∈ items) (hr : i.rest = s :: rest) :
    ∃ target known, state.target? s = some target ∧ (i.advance, known) ∈ kernelAt target ∧
      set.within known := by
  have edge := List.all_eq_true.1 checked (i, set) h
  simp only [hr] at edge
  split at edge
  next target found =>
    obtain ⟨known, member, within⟩ := lists_iff.1 edge
    exact ⟨target, known, found, member, within⟩
  next => contradiction

theorem actionOf_of_endsComplete {t : Terminal} (checked : endsComplete state items = true)
    (h : (i, set) ∈ items) (hr : i.rest = []) (ht : set.mem t)
    (calm : i.production.contested t = false) :
    actionOf state items t = some (finish i.production) := by
  have atEnd := List.all_eq_true.1 checked (i, set) h
  simp only [hr] at atEnd
  simpa [ht, calm] using List.all_eq_true.1 atEnd t (mem_terminals t)

theorem endOfInput_of_acceptsAtEnd {t : Terminal} (checked : acceptsAtEnd items = true)
    (h : (i, set) ∈ items) (hr : i.rest = []) (hp : i.production = .root) (ht : set.mem t) :
    t = .endOfInput := by
  have within := List.all_eq_true.1 checked (i, set) h
  simp only [hr, hp, List.isEmpty_nil, decide_true, Bool.and_self, Bool.not_true,
    Bool.false_or] at within
  have single : (TerminalSet.single .endOfInput).mem t := TerminalSet.mem_of_within within ht
  have all : ∀ t ∈ terminals, (TerminalSet.single .endOfInput).mem t → t = .endOfInput := by
    decide
  exact all t (mem_terminals t) single

theorem target_of_edgesSound {s : Symbol} {target : Nat} (checked : edgesSound state items = true)
    (h : state.target? s = some target) :
    kernelAt target ≠ [] ∧
      (∀ k ∈ kernelAt target, ∃ i ∈ items, i.1.expects s ∧ i.1.advance = k.1) ∧
      (Symbol.isLast s → (stateAt target).targets = []) := by
  have edge := List.all_eq_true.1 checked (s, target) (State.mem_targets h)
  simp only [Bool.and_eq_true, Bool.or_eq_true, Bool.not_eq_true'] at edge
  refine ⟨fun empty => by simp [empty] at edge, fun k hk => ?_, fun last => ?_⟩
  · have origin := List.all_eq_true.1 edge.1.2 k hk
    simpa only [List.any_eq_true, Bool.and_eq_true, decide_eq_true_eq] using origin
  · simpa [last] using edge.2

end

/-- A check of paired entries holds at every number, when it holds of what
    stands for missing ones. -/
theorem check_getD {α β : Type} {check : α → β → Bool} {as : List α} {bs : List β} {a : α} {b : β}
    (length : bs.length = as.length) (checked : ((as.zip bs).all fun (a, b) => check a b) = true)
    (beyond : check a b = true) (q : Nat) : check (as.getD q a) (bs.getD q b) = true := by
  by_cases h : q < as.length
  · have h' : q < bs.length := by omega
    have member : (as[q], bs[q]) ∈ as.zip bs :=
      List.mem_of_getElem? (List.getElem?_zip_eq_some.2
        ⟨List.getElem?_eq_getElem h, List.getElem?_eq_getElem h'⟩)
    simpa [List.getD_eq_getElem?_getD, h, h'] using List.all_eq_true.1 checked _ member
  · have h' : ¬ q < bs.length := by omega
    simpa [List.getD_eq_getElem?_getD, h, h'] using beyond

/-- Rows made from paired entries, when what stands for missing ones makes
    the missing row. -/
theorem getElem?_zipWith_getD {α β γ : Type} {f : α → β → γ} {as : List α} {bs : List β} {a : α}
    {b : β} (length : bs.length = as.length) (q : Nat) :
    ((as.zipWith f bs)[q]? = some (f (as.getD q a) (bs.getD q b))) ∨
      ((as.zipWith f bs)[q]? = none ∧ as.getD q a = a ∧ bs.getD q b = b) := by
  by_cases h : q < as.length
  · have h' : q < bs.length := by omega
    refine .inl ?_
    rw [List.getElem?_zipWith]
    simp [List.getD_eq_getElem?_getD, h, h']
  · have h' : ¬ q < bs.length := by omega
    refine .inr ?_
    rw [List.getElem?_zipWith]
    simp [List.getD_eq_getElem?_getD, h, h']

/-! ## Section 4: What the check shows of the automaton -/

theorem kernels_length : kernels.length = states.length := by
  have h := automaton_checked
  simp only [automatonChecked, Bool.and_eq_true] at h
  exact of_decide_eq_true h.1.1.1

/-- Every state passes the check. -/
theorem state_checked (q : Nat) : checkState (stateAt q) (kernelAt q) = true := by
  have h := automaton_checked
  simp only [automatonChecked, Bool.and_eq_true] at h
  exact check_getD kernels_length h.1.1.2 (by rfl) q

/-- The parts of the check of a state. -/
theorem checkState_iff {state : State} {kernel : Followed} :
    checkState state kernel = true ↔
      pendingComplete (followItems kernel) (followPending kernel) = true ∧
        edgesComplete state (followItems kernel) = true ∧
        endsComplete state (followItems kernel) = true ∧
        acceptsAtEnd (followItems kernel) = true ∧
        edgesSound state (followItems kernel) = true := by
  simp only [checkState, Bool.and_eq_true, and_assoc]

/-- Where an item goes on with a nonterminal, its productions are items, and
    what may follow the nonterminal there may follow them. -/
theorem closed {q : Nat} {i : Item} {set : TerminalSet} {p : Production} {rest : List Symbol}
    (h : (i, set) ∈ itemsAt q) (hr : i.rest = .nonterminal p.lhs :: rest) :
    ∃ known, (⟨p, 0⟩, known) ∈ itemsAt q ∧
      ((firsts.ofSymbols rest).andThen ⟨false, set⟩).first.within known := by
  obtain ⟨checked, -⟩ := checkState_iff.1 (state_checked q)
  obtain ⟨known, pending, within⟩ := mem_of_pendingComplete checked h hr
  refine ⟨known, List.mem_append_right _ (List.mem_flatMap.2 ⟨_, pending, ?_⟩), within⟩
  exact List.mem_map_of_mem (mem_productionsOf p)

/-- Every item that goes on with a symbol has a state to go on in, and keeps
    its followers there. -/
theorem advances {q : Nat} {i : Item} {set : TerminalSet} {s : Symbol} {rest : List Symbol}
    (h : (i, set) ∈ itemsAt q) (hr : i.rest = s :: rest) :
    ∃ target known, (stateAt q).target? s = some target ∧ (i.advance, known) ∈ itemsAt target ∧
      set.within known := by
  obtain ⟨-, checked, -⟩ := checkState_iff.1 (state_checked q)
  obtain ⟨target, known, found, member, within⟩ := target_of_edgesComplete checked h hr
  exact ⟨target, known, found, List.mem_append_left _ member, within⟩

/-- An item at its end is carried out before each of its followers, unless
    the automaton reads on. -/
theorem finishes {q : Nat} {i : Item} {set : TerminalSet} {t : Terminal}
    (h : (i, set) ∈ itemsAt q) (hr : i.rest = []) (ht : set.mem t)
    (calm : i.production.contested t = false) :
    actionOf (stateAt q) (itemsAt q) t = some (finish i.production) := by
  obtain ⟨-, -, checked, -⟩ := checkState_iff.1 (state_checked q)
  exact actionOf_of_endsComplete checked h hr ht calm

/-- Only the end of the input follows a whole statement. -/
theorem endOfInput_of_root {q : Nat} {i : Item} {set : TerminalSet} {t : Terminal}
    (h : (i, set) ∈ itemsAt q) (hr : i.rest = []) (hp : i.production = .root)
    (ht : set.mem t) : t = .endOfInput := by
  obtain ⟨-, -, -, checked, -⟩ := checkState_iff.1 (state_checked q)
  exact endOfInput_of_acceptsAtEnd checked h hr hp ht

section

variable {q target : Nat} {s : Symbol}

theorem kernelAt_ne_nil (h : (stateAt q).target? s = some target) : kernelAt target ≠ [] := by
  obtain ⟨-, -, -, -, checked⟩ := checkState_iff.1 (state_checked q)
  exact (target_of_edgesSound checked h).1

/-- Every item in the kernel of a state comes from a state before it. -/
theorem kernel_origin (h : (stateAt q).target? s = some target) {k : Item} {set : TerminalSet}
    (hk : (k, set) ∈ kernelAt target) :
    ∃ i known rest, (i, known) ∈ itemsAt q ∧ i.rest = s :: rest ∧ i.advance = k := by
  obtain ⟨-, -, -, -, checked⟩ := checkState_iff.1 (state_checked q)
  obtain ⟨⟨i, known⟩, member, expects, rfl⟩ := (target_of_edgesSound checked h).2.1 _ hk
  obtain ⟨rest, hr⟩ := Item.expects_iff.1 expects
  exact ⟨i, known, rest, member, hr, rfl⟩

/-- Nothing is read in a state entered by a symbol that is last. -/
theorem target?_of_isLast (h : (stateAt q).target? s = some target) (last : Symbol.isLast s)
    (r : Symbol) : (stateAt target).target? r = none := by
  obtain ⟨-, -, -, -, checked⟩ := checkState_iff.1 (state_checked q)
  simp [State.target?, (target_of_edgesSound checked h).2.2 last]

end

/-- Every parse starts with the whole statement ahead, and the end of the
    input behind it. -/
theorem initial_item :
    ∃ known, ((⟨.root, 0⟩ : Item), known) ∈ itemsAt 0 ∧ known.mem .endOfInput := by
  have checked := automaton_checked
  simp only [automatonChecked, Bool.and_eq_true] at checked
  obtain ⟨known, member, within⟩ := lists_iff.1 checked.1.2
  exact ⟨known, List.mem_append_left _ member,
    TerminalSet.mem_of_within within TerminalSet.mem_single_self⟩

/-- Nothing else is under way then. -/
theorem kernelAt_zero {i : Item} {set : TerminalSet} (h : (i, set) ∈ kernelAt 0) :
    i = ⟨.root, 0⟩ := by
  have checked := automaton_checked
  simp only [automatonChecked, Bool.and_eq_true] at checked
  exact of_decide_eq_true (List.all_eq_true.1 checked.2 _ h)

/-! ## Section 5: The table -/

theorem lookup_filterMap {α β : Type} [DecidableEq α] (f : α → Option β) (as : List α) (a : α)
    (h : a ∈ as) : (as.filterMap fun a => (f a).map (a, ·)).lookup a = f a := by
  induction as with
  | nil => contradiction
  | cons b as ih =>
    by_cases hab : a = b
    · subst hab
      cases hf : f a with
      | some c => simp [hf]
      | none =>
        -- an element without a partner is passed by, here and further on
        have absent : ∀ x ∈ as.filterMap fun a => (f a).map (a, ·), (a != x.1) = true := by
          rintro ⟨b, c⟩ hx
          obtain ⟨b', -, hb⟩ := List.mem_filterMap.1 hx
          refine bne_iff_ne.2 fun same => ?_
          simp_all
        simpa only [List.filterMap_cons, hf, Option.map_none] using List.lookup_eq_none_iff.2 absent
    · have found := ih (by simpa [hab] using h)
      cases hf : f b with
      | some c => simpa [hf, List.lookup_cons, beq_eq_false_iff_ne.2 hab] using found
      | none => simpa [hf] using found

theorem lookup_rowOf_actions (state : State) (kernel : Followed) (t : Terminal) :
    (rowOf state kernel).actions.lookup t = actionOf state (followItems kernel) t :=
  lookup_filterMap _ _ t (mem_terminals t)

theorem lookup_rowOf_targets (state : State) (kernel : Followed) (n : Nonterminal) :
    (rowOf state kernel).targets.lookup n = state.target? (.nonterminal n) :=
  lookup_filterMap _ _ n (by cases n <;> decide)

/-- A state has its row in the table, or neither items nor targets. -/
theorem table_getElem? (q : Nat) :
    table[q]? = some (rowOf (stateAt q) (kernelAt q)) ∨
      (table[q]? = none ∧ stateAt q = ⟨[], []⟩ ∧ kernelAt q = []) := by
  rw [table, List.getElem?_toArray]
  exact getElem?_zipWith_getD kernels_length q

/-- The actions in the table are those of the states. -/
theorem lookup_actions (q : Nat) (t : Terminal) :
    (actions q).lookup t = actionOf (stateAt q) (itemsAt q) t := by
  rcases table_getElem? q with row | ⟨row, noState, noKernel⟩
  · rw [actions, row, Option.map_some, Option.getD_some, lookup_rowOf_actions, itemsAt]
  · rw [actions, row, itemsAt, noState, noKernel]
    rfl

/-- The targets in the table are those of the states. -/
theorem target?_eq (q : Nat) (n : Nonterminal) :
    target? q n = (stateAt q).target? (.nonterminal n) := by
  rcases table_getElem? q with row | ⟨row, noState, -⟩
  · rw [target?, row, Option.bind_some, lookup_rowOf_targets]
  · rw [target?, row, noState]
    rfl

end Stencil.Grammar
