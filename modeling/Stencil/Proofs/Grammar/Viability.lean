import Stencil.Proofs.Grammar.Progress

/-! # What the automaton has read begins a statement

    The automaton never reads a token in vain: at any time, the tokens on
    its stack can be completed to a statement.  Each item of a state tells
    how: the symbols before the dot derive the last of the tokens, and
    whatever completes the production completes a statement as well. -/

namespace Stencil.Grammar

/-! ## Section 1: Left corners -/

/-- Do words of the second nonterminal start words of the first, all with
    the same words behind? -/
def LeftCorner (m n : Nonterminal) : Prop :=
  ∃ behind, ∀ us, Derives [.nonterminal n] us → Derives [.nonterminal m] (us ++ behind)

theorem LeftCorner.refl (n : Nonterminal) : LeftCorner n n :=
  ⟨[], fun us h => by rwa [List.append_nil]⟩

/-- A nonterminal at the front of a production is a left corner. -/
theorem LeftCorner.step {m : Nonterminal} {p : Production} {n : Nonterminal} {rest : List Symbol}
    (h : LeftCorner m p.lhs) (hp : p.rhs = .nonterminal n :: rest) : LeftCorner m n := by
  obtain ⟨behind, corner⟩ := h
  have productive : ∀ s ∈ rest, Productive s := by
    intro s hs
    exact productive_of_mem_rhs (hp ▸ List.mem_cons_of_mem _ hs)
  obtain ⟨vs, hrest⟩ := exists_derives productive
  refine ⟨vs ++ behind, fun us hus => ?_⟩
  have whole : Derives p.rhs (us ++ vs) := by
    rw [hp]
    exact hus.append hrest
  rw [← List.append_assoc]
  exact corner _ whole.node

/-- What `f` keeps, its repetition keeps. -/
theorem untilStable_keeps {α : Type} [DecidableEq α] {f : α → α} {P : α → Prop}
    (keeps : ∀ a, P a → P (f a)) (fuel : Nat) {a : α} (h : P a) : P (untilStable f fuel a) := by
  induction fuel generalizing a with
  | zero => exact h
  | succ fuel ih =>
    rw [untilStable]
    split
    · exact h
    · exact ih (keeps a h)

/-- Are all corners in a list corners of a nonterminal? -/
def AllCorners (m : Nonterminal) (found : List Corner) : Prop :=
  ∀ c ∈ found, LeftCorner m c.head

theorem AllCorners.add {m n : Nonterminal} {behind : Firsts} {found : List Corner}
    (h : AllCorners m found) (hn : LeftCorner m n) : AllCorners m (addCorner n behind found) := by
  induction found with
  | nil =>
    intro c hc
    obtain rfl := List.mem_singleton.1 hc
    exact hn
  | cons d rest ih =>
    have front := h d List.mem_cons_self
    have others : AllCorners m rest := fun c hc => h c (List.mem_cons_of_mem _ hc)
    rw [addCorner]
    split
    · intro c hc
      rcases List.mem_cons.1 hc with rfl | hc
      · exact hn
      · exact others c hc
    · intro c hc
      rcases List.mem_cons.1 hc with rfl | hc
      · exact front
      · exact ih others c hc

theorem AllCorners.grow {m : Nonterminal} {found : List Corner} (h : AllCorners m found) :
    AllCorners m (growCorners found) := by
  unfold growCorners
  refine List.foldlRecOn found _ h fun found' h' c hc => ?_
  refine List.foldlRecOn (productionsOf c.head) _ h' fun found'' h'' p hp => ?_
  split
  next n rest hrhs =>
    have corner : LeftCorner m p.lhs := by
      rw [lhs_of_mem_productionsOf hp]
      exact h c hc
    exact h''.add (corner.step hrhs)
  next => exact h''

theorem allCorners_corners (m : Nonterminal) : AllCorners m (corners m) := by
  refine untilStable_keeps (fun _ h => h.grow) _ ?_
  intro c hc
  obtain rfl := List.mem_singleton.1 hc
  exact .refl m

theorem cornerTable_getD (n : Nonterminal) : cornerTable.getD n.ctorIdx [] = corners n := by
  cases n <;> simp [cornerTable, nonterminals, Nonterminal.ctorIdx]

/-! ## Section 2: Items -/

/-- Is there a way to complete the tokens to a statement by completing the
    item? -/
def Fits (ts : List Token) (i : Item) : Prop :=
  ∃ before inside after, ts = before ++ inside ∧ Derives (i.production.rhs.take i.dot) inside ∧
    ∀ us, Derives [.nonterminal i.production.lhs] us →
      Derives [.nonterminal .root] (before ++ us ++ after)

theorem fits_root : Fits [] ⟨.root, 0⟩ :=
  ⟨[], [], [], rfl, .nil, fun us h => by simpa using h⟩

/-- An item goes along when a tree is read for its next symbol. -/
theorem Fits.advance {ts : List Token} {i : Item} {s : Symbol} {rest : List Symbol}
    (h : Fits ts i) (hr : i.rest = s :: rest) (t : Tree s) : Fits (ts ++ t.yield) i.advance := by
  obtain ⟨before, inside, after, rfl, derives, completes⟩ := h
  refine ⟨before, inside ++ t.yield, after, by rw [List.append_assoc], ?_, completes⟩
  have next : i.production.rhs[i.dot]? = some s := by
    rw [← List.head?_drop]
    exact congrArg List.head? hr
  rw [Item.advance, List.take_add_one, next]
  exact derives.append (.of_tree t)

/-- Where an item goes on with a nonterminal, the productions of its left
    corners fit from their beginning. -/
theorem Fits.corner {ts : List Token} {i : Item} {m : Nonterminal} {rest : List Symbol}
    (h : Fits ts i) (hr : i.rest = .nonterminal m :: rest) {p : Production}
    (corner : LeftCorner m p.lhs) : Fits ts ⟨p, 0⟩ := by
  obtain ⟨before, inside, after, rfl, derives, completes⟩ := h
  obtain ⟨behind, corner⟩ := corner
  have rhs : i.production.rhs = i.production.rhs.take i.dot ++ .nonterminal m :: rest := by
    rw [← hr, Item.rest, List.take_append_drop]
  have productive : ∀ s ∈ rest, Productive s := by
    intro s hs
    refine productive_of_mem_rhs (p := i.production) ?_
    rw [rhs]
    simp [hs]
  -- the item is completed by any tokens that the rest of it derives
  obtain ⟨vs, hrest⟩ := exists_derives productive
  refine ⟨before ++ inside, [], behind ++ vs ++ after, by simp, .nil, fun us hus => ?_⟩
  have whole : Derives i.production.rhs (inside ++ ((us ++ behind) ++ vs)) := by
    rw [rhs]
    exact derives.append ((corner us hus).append hrest)
  simpa using completes _ whole.node

theorem mem_addFollow {n m : Nonterminal} {set known : TerminalSet}
    {found : List (Nonterminal × TerminalSet)} (h : (m, known) ∈ addFollow n set found) :
    m = n ∨ ∃ known, (m, known) ∈ found := by
  induction found with
  | nil =>
    obtain ⟨rfl, -⟩ := Prod.mk.inj (List.mem_singleton.1 h)
    exact .inl rfl
  | cons front rest ih =>
    obtain ⟨k, others⟩ := front
    rw [addFollow] at h
    split at h
    · rcases List.mem_cons.1 h with same | h
      · obtain ⟨rfl, -⟩ := Prod.mk.inj same
        exact .inr ⟨others, List.mem_cons_self⟩
      · exact .inr ⟨known, List.mem_cons_of_mem _ h⟩
    · rcases List.mem_cons.1 h with same | h
      · obtain ⟨rfl, -⟩ := Prod.mk.inj same
        exact .inr ⟨others, List.mem_cons_self⟩
      · rcases ih h with rfl | ⟨known, h⟩
        · exact .inl rfl
        · exact .inr ⟨known, List.mem_cons_of_mem _ h⟩

/-- Is a nonterminal a left corner of what some items go on with? -/
def Pending (kernel : Followed) (n : Nonterminal) : Prop :=
  ∃ i known m rest, (i, known) ∈ kernel ∧ i.rest = .nonterminal m :: rest ∧ LeftCorner m n

theorem pending_of_mem {kernel : Followed} {n : Nonterminal} {set : TerminalSet}
    (h : (n, set) ∈ followPending kernel) : Pending kernel n := by
  let Sound (found : List (Nonterminal × TerminalSet)) : Prop :=
    ∀ known ∈ found, Pending kernel known.1
  have nothing : Sound [] := fun known hk => by cases hk
  -- an invariant of both folds
  have all : Sound (followPending kernel) := by
    refine List.foldlRecOn kernel _ nothing fun found sound next hnext => ?_
    obtain ⟨i, followers⟩ := next
    dsimp only
    split
    next m rest hr =>
      rw [cornerTable_getD]
      refine List.foldlRecOn (corners m) _ sound fun found sound c hc => ?_
      rintro ⟨k, known⟩ hk
      rcases mem_addFollow hk with rfl | ⟨others, hk⟩
      · exact ⟨i, followers, m, rest, hnext, hr, allCorners_corners m c hc⟩
      · exact sound (k, others) hk
    next => exact sound
  exact all _ h

/-- All items of a state fit when those of its kernel do. -/
theorem fits_of_kernel {ts : List Token} {kernel : Followed}
    (h : ∀ i set, (i, set) ∈ kernel → Fits ts i) {i : Item} {set : TerminalSet}
    (hi : (i, set) ∈ followItems kernel) : Fits ts i := by
  rcases List.mem_append.1 hi with hi | hi
  · exact h i set hi
  · obtain ⟨⟨n, known⟩, hn, hi⟩ := List.mem_flatMap.1 hi
    obtain ⟨p, hp, same⟩ := List.mem_map.1 hi
    obtain ⟨rfl, -⟩ := Prod.mk.inj same
    obtain ⟨k, followers, m, rest, hk, hr, corner⟩ := pending_of_mem hn
    refine (h k followers hk).corner hr ?_
    rwa [lhs_of_mem_productionsOf hp]

/-! ## Section 3: Every stack begins a statement -/

/-- All items of the uppermost state fit the tokens on the stack. -/
theorem Grown.fits {stack : List Entry} {ts : List Token} (h : Grown stack ts) {i : Item}
    {set : TerminalSet} (hi : (i, set) ∈ itemsAt (topState stack)) : Fits ts i := by
  induction h generalizing i set with
  | nil =>
    refine fits_of_kernel (fun k known hk => ?_) hi
    rw [kernelAt_zero hk]
    exact fits_root
  | push below t value edge ih =>
    refine fits_of_kernel (fun k known hk => ?_) hi
    obtain ⟨j, followers, rest, hj, hr, rfl⟩ := kernel_origin edge hk
    exact (ih hj).advance hr t

theorem Fits.viable {ts : List Token} {i : Item} (h : Fits ts i) : Viable ts := by
  obtain ⟨before, inside, after, rfl, derives, completes⟩ := h
  have productive : ∀ s ∈ i.rest, Productive s := by
    intro s hs
    exact productive_of_mem_rhs (List.mem_of_mem_drop hs)
  obtain ⟨vs, hrest⟩ := exists_derives productive
  have whole : Derives i.production.rhs (inside ++ vs) := by
    have joined := derives.append hrest
    rwa [Item.rest, List.take_append_drop] at joined
  refine ⟨vs ++ after, derivable_of_root ?_⟩
  simpa using completes _ whole.node

/-- The tokens on a stack begin a statement. -/
theorem Grown.viable {stack : List Entry} {ts : List Token} (h : Grown stack ts) : Viable ts := by
  obtain ⟨⟨i, set⟩, hi⟩ : ∃ known, known ∈ itemsAt (topState stack) := by
    cases h with
    | nil =>
      obtain ⟨known, hi, -⟩ := initial_item
      exact ⟨_, hi⟩
    | push _ _ _ edge =>
      obtain ⟨known, hk⟩ := List.exists_mem_of_ne_nil _ (kernelAt_ne_nil edge)
      exact ⟨known, List.mem_append_left _ hk⟩
  exact (h.fits hi).viable

end Stencil.Grammar
