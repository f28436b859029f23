import Mathlib.Data.List.ProdSigma
import Stencil.Proofs.Scope.Tidy
import Stencil.Scope.Request

/-! # What is seen of a binding

    The scopes of a tree share the frames around them, so what is bound in
    one scope may be seen from others.  Binding a name changes the datum of
    that name in one frame: the frame of the scope itself, or, for an
    assignment, the nearest durable one from there outwards.  It is seen
    from exactly those scopes whose chain comes to that frame before any
    other one that binds the name.  All ways to look a name up go by the
    same frame, also where that binds the name to nil. -/

namespace Stencil

/-! ## Section 1: Chains of frames -/

/-- A frame with a name bound in it. -/
def Frame.put (f : Frame) (key : String) (value : Native) : Frame :=
  { f with bindings := f.bindings.put key value }

namespace Scope

theorem get?_eq_findSome? (s : Scope) (key : String) :
    s.get? key = s.frames.findSome? (·.bindings.lookup key) := by
  induction s with
  | root f => simp [get?, frames]
  | child f parent ih =>
    rw [get?, frames, List.findSome?_cons]
    cases f.bindings.lookup key with
    | some v => rfl
    | none => exact ih

theorem ownerDepth?_eq_findIdx? (s : Scope) (key : String) :
    s.ownerDepth? key = s.frames.findIdx? fun f => (f.bindings.lookup key).isSome := by
  induction s with
  | root f => simp [ownerDepth?, frames]
  | child f parent ih => rw [ownerDepth?, frames, List.findIdx?_cons, ih]

theorem frames_set {s : Scope} {f : Frame} {outer : List Frame} (h : s.frames = f :: outer)
    (key : String) (value : Native) : (s.set key value).frames = f.put key value :: outer := by
  cases s <;> cases h <;> rfl

/-- An assignment changes the first durable frame, or the last one if there
    is none. -/
theorem frames_assign {s : Scope} {inner outer : List Frame} {f : Frame}
    (h : s.frames = inner ++ f :: outer) (passed : ∀ g ∈ inner, g.isTransient = true)
    (ends : f.isTransient = false ∨ outer = []) (key : String) (value : Native) :
    (s.assign key value).frames = inner ++ f.put key value :: outer := by
  induction s generalizing inner with
  | root g =>
    cases inner with
    | nil => cases h; rfl
    | cons => simp [frames] at h
  | child g parent ih =>
    cases inner with
    | nil =>
      cases h
      -- a scope with a parent has frames outside, so it is not the last one
      have durable : f.isTransient = false := by
        refine ends.resolve_right ?_
        cases parent <;> exact List.cons_ne_nil _ _
      rw [assign, if_neg (by rw [durable]; exact Bool.false_ne_true)]
      rfl
    | cons g' inner =>
      injection h with same rest
      subst same
      obtain ⟨first, later⟩ := List.forall_mem_cons.1 passed
      rw [assign, if_pos first, frames, ih rest later]
      rfl

end Scope

namespace ScopeTree

theorem frames_chain (f : Frame) (fs : List Frame) : (chain f fs).frames = f :: fs := by
  induction fs generalizing f with
  | nil => rfl
  | cons g fs ih => rw [chain, Scope.frames, ih]

/-! ## Section 2: Trees -/

/-- The number of the frame around one. -/
def parentAt (t : ScopeTree) (i : Nat) : Option Nat :=
  (t.frames[i]?).bind TreeFrame.parent

/-- The datum that a frame itself binds a name to. -/
def own (t : ScopeTree) (i : Nat) (key : String) : Option Native :=
  (t.frameAt i).bindings.lookup key

/-- The numbers of the frames from one outwards, to one with nothing around
    it. -/
inductive Chain (t : ScopeTree) : Nat → List Nat → Prop
  | outermost {i : Nat} : t.parentAt i = none → Chain t i [i]
  | inside {i p : Nat} {outer : List Nat} :
      t.parentAt i = some p → Chain t p outer → Chain t i (i :: outer)

/-- The trees that creating scopes and binding names lead to.  No scope is
    told what its parent is but by being created inside it. -/
inductive Built : ScopeTree → Prop
  | root (bindings : Bindings) : Built (.ofBindings bindings)
  | create {t : ScopeTree} (bindings : Bindings) (parent : Option Nat) : Built t →
      (∀ p, parent = some p → p < t.frames.size) → Built (t.add bindings parent)
  | child {t t' : ScopeTree} {i : Nat} {bindings notes : Bindings} : Built t →
      i < t.frames.size → notes.lookup parentNote = none →
      t.addChild i bindings notes = .ok t' → Built t'
  | bind {t t' : ScopeTree} {i : Nat} {key value : Native} : Built t →
      i < t.frames.size → t.bind i key value = .ok t' → Built t'
  | assign {t t' : ScopeTree} {i : Nat} {key value : Native} : Built t →
      i < t.frames.size → t.bindDurably i key value = .ok t' → Built t'

/-- What holds of every such tree: a frame is newer than the one around it,
    and none notes a parent. -/
structure WellFormed (t : ScopeTree) : Prop where
  older : ∀ i p, t.parentAt i = some p → p < i
  unnoted : ∀ i, (t.frameAt i).notes.lookup parentNote = none

variable {t t' : ScopeTree} {i j w : Nat} {key : String} {value : Native}

theorem path_outermost (h : t.parentAt i = none) : t.path i = [i] := by
  rw [parentAt] at h
  rw [path, h]

theorem path_inside {p : Nat} (h : t.parentAt i = some p) (older : p < i) :
    t.path i = i :: t.path p := by
  rw [parentAt] at h
  rw [path, h]
  exact if_pos older

namespace WellFormed

variable {ns : List Nat}

theorem chain_path (wf : t.WellFormed) (i : Nat) : t.Chain i (t.path i) := by
  induction i using Nat.strongRecOn with
  | ind i ih =>
    cases around : t.parentAt i with
    | none =>
      rw [path_outermost around]
      exact .outermost around
    | some p =>
      have older := wf.older i p around
      rw [path_inside around older]
      exact .inside around (ih p older)

theorem path_of_chain (wf : t.WellFormed) (h : t.Chain i ns) : t.path i = ns := by
  induction h with
  | outermost around => exact path_outermost around
  | inside around _ ih => rw [path_inside around (wf.older _ _ around), ih]

theorem le_of_mem_chain (wf : t.WellFormed) (h : t.Chain i ns) : ∀ m ∈ ns, m ≤ i := by
  induction h with
  | outermost => simp
  | inside around _ ih =>
    have older := wf.older _ _ around
    refine List.forall_mem_cons.2 ⟨Nat.le_refl _, fun m hm => ?_⟩
    have := ih m hm
    omega

theorem chain_nodup (wf : t.WellFormed) (h : t.Chain i ns) : ns.Nodup := by
  induction h with
  | outermost => simp
  | inside around later ih =>
    refine List.nodup_cons.2 ⟨fun again => ?_, ih⟩
    exact Nat.not_lt.2 (wf.le_of_mem_chain later _ again) (wf.older _ _ around)

theorem frames_scopeAt (wf : t.WellFormed) (h : t.Chain i ns) :
    (t.scopeAt i).frames = ns.map t.frameAt := by
  rw [scopeAt, frames_chain, wf.path_of_chain h]
  cases h <;> rfl

end WellFormed

/-! ## Section 3: Changes of frames -/

theorem chain_congr (same : ∀ j, t'.parentAt j = t.parentAt j) {ns : List Nat}
    (h : t.Chain i ns) : t'.Chain i ns := by
  induction h with
  | outermost around => exact .outermost ((same _).trans around)
  | inside around _ ih => exact .inside ((same _).trans around) ih

theorem size_replace (t : ScopeTree) (i : Nat) (f : Frame) :
    (t.replace i f).frames.size = t.frames.size :=
  Array.size_modify

theorem parentAt_replace (t : ScopeTree) (i : Nat) (f : Frame) (j : Nat) :
    (t.replace i f).parentAt j = t.parentAt j := by
  rw [parentAt, parentAt, replace, Array.getElem?_modify]
  split
  · cases t.frames[j]? <;> rfl
  · rfl

theorem frameAt_replace (hi : i < t.frames.size) (f : Frame) (j : Nat) :
    (t.replace i f).frameAt j = if j = i then f else t.frameAt j := by
  rw [frameAt, frameAt, replace, Array.getElem?_modify]
  by_cases here : j = i
  · subst here
    simp [hi]
  · rw [if_neg (Ne.symm here), if_neg here]

/-- Is the second tree the first one with other data in its frames? -/
structure Refilled (t : ScopeTree) (g : Nat → Frame) (t' : ScopeTree) : Prop where
  size : t'.frames.size = t.frames.size
  parents : ∀ j, t'.parentAt j = t.parentAt j
  frames : ∀ j, t'.frameAt j = g j

theorem refilled_foldl (g : Nat → Frame) {ns : List Nat} (inside : ∀ m ∈ ns, m < t.frames.size) :
    t.Refilled (fun j => if j ∈ ns then g j else t.frameAt j)
      (ns.foldl (fun t m => t.replace m (g m)) t) := by
  induction ns generalizing t with
  | nil => exact ⟨rfl, fun _ => rfl, fun _ => rfl⟩
  | cons n ns ih =>
    obtain ⟨first, rest⟩ := List.forall_mem_cons.1 inside
    -- replacing a frame leaves as many of them, so the others are still inside
    have within : ∀ m ∈ ns, m < (t.replace n (g n)).frames.size := by
      rw [size_replace]
      exact rest
    have later := ih within
    refine ⟨later.size.trans (size_replace t n (g n)), fun j => ?_, fun j => ?_⟩
    · exact (later.parents j).trans (parentAt_replace t n (g n) j)
    · rw [List.foldl_cons, later.frames, frameAt_replace first]
      by_cases among : j ∈ ns
      · simp [among]
      · by_cases here : j = n <;> simp [among, here]

/-- Writing a chain back of which one frame has changed. -/
theorem WellFormed.refilled_writeBack (wf : t.WellFormed) (hi : i < t.frames.size) {s : Scope}
    {inner outer : List Nat} (h : t.Chain i (inner ++ w :: outer)) {f : Frame}
    (changed : s.frames = inner.map t.frameAt ++ f :: outer.map t.frameAt) :
    t.Refilled (fun j => if j = w then f else t.frameAt j) (t.writeBack i s) := by
  obtain ⟨-, single, apart⟩ := List.nodup_append.1 (wf.chain_nodup h)
  have elsewhere {ns : List Nat} (other : w ∉ ns) :
      ns.map t.frameAt = ns.map fun j => if j = w then f else t.frameAt j :=
    List.map_congr_left fun j hj => (if_neg (ne_of_mem_of_not_mem hj other)).symm
  -- `w` comes once on the chain, so all its other frames stay as they are
  have frames : s.frames =
      (inner ++ w :: outer).map fun j => if j = w then f else t.frameAt j := by
    rw [changed, List.map_append, List.map_cons, if_pos rfl,
      elsewhere fun again => apart w again w List.mem_cons_self rfl,
      elsewhere (List.nodup_cons.1 single).1]
  have inside : ∀ m ∈ inner ++ w :: outer, m < t.frames.size := fun m hm =>
    Nat.lt_of_le_of_lt (wf.le_of_mem_chain h m hm) hi
  have written := refilled_foldl (fun j => if j = w then f else t.frameAt j) inside
  rw [writeBack, wf.path_of_chain h, frames, ← List.map_prod_left_eq_zip, List.foldl_map]
  refine ⟨written.size, written.parents, fun j => (written.frames j).trans ?_⟩
  by_cases here : j = w
  · rw [if_pos here, if_pos (here ▸ List.mem_append_right _ List.mem_cons_self)]
  · rw [if_neg here, ite_self]

/-- The frames of a tree, with a name bound in one of them. -/
def framesWith (t : ScopeTree) (w : Nat) (key : String) (value : Native) (j : Nat) : Frame :=
  if j = w then (t.frameAt w).put key value else t.frameAt j

variable (key value) in
/-- Binding a name in a frame. -/
theorem WellFormed.refilled_set (wf : t.WellFormed) (hi : i < t.frames.size) :
    t.Refilled (t.framesWith i key value) (t.set i key value) := by
  have chain := wf.chain_path i
  generalize t.path i = ns at chain
  have whole := wf.frames_scopeAt chain
  have split : ∃ outer, ns = [] ++ i :: outer := by cases chain <;> exact ⟨_, rfl⟩
  obtain ⟨outer, rfl⟩ := split
  exact wf.refilled_writeBack hi chain (Scope.frames_set whole key value)

/-- Does an assignment from `i` end in `w`: in the nearest durable frame from
    there outwards, or in the outermost one if none is durable? -/
def AssignsTo (t : ScopeTree) (i w : Nat) : Prop :=
  ∃ inner outer, t.Chain i (inner ++ w :: outer) ∧
    (∀ j ∈ inner, (t.frameAt j).isTransient = true) ∧
    ((t.frameAt w).isTransient = false ∨ outer = [])

theorem WellFormed.exists_assignsTo (wf : t.WellFormed) (i : Nat) : ∃ w, t.AssignsTo i w := by
  have chain := wf.chain_path i
  generalize t.path i = ns at chain
  induction chain with
  | @outermost i around => exact ⟨i, [], [], .outermost around, by simp, .inr rfl⟩
  | @inside i p outer around later ih =>
    cases passed : (t.frameAt i).isTransient with
    | false => exact ⟨i, [], outer, .inside around later, by simp, .inl passed⟩
    | true =>
      obtain ⟨w, inner, beyond, chain, transient, ends⟩ := ih
      exact ⟨w, i :: inner, beyond, .inside around chain,
        List.forall_mem_cons.2 ⟨passed, transient⟩, ends⟩

/-- There is one such frame only. -/
theorem AssignsTo.unique (wf : t.WellFormed) {v : Nat} (h : t.AssignsTo i w)
    (h' : t.AssignsTo i v) : w = v := by
  obtain ⟨inner, outer, chain, passed, ends⟩ := h
  obtain ⟨inner', outer', chain', passed', ends'⟩ := h'
  have split := (wf.path_of_chain chain).symm.trans (wf.path_of_chain chain')
  -- neither of two parts that are passed by can hold the end of the other
  rcases List.append_eq_append_iff.1 split with ⟨more, rfl, rest⟩ | ⟨more, rfl, rest⟩
  · cases more with
    | nil => exact (List.cons.inj rest).1
    | cons m more =>
      obtain ⟨rfl, rfl⟩ := List.cons.inj rest
      have transient := passed' w (by simp)
      rcases ends with durable | last
      · rw [durable] at transient
        cases transient
      · simp at last
  · cases more with
    | nil => exact (List.cons.inj rest).1.symm
    | cons m more =>
      obtain ⟨rfl, rfl⟩ := List.cons.inj rest
      have transient := passed v (by simp)
      rcases ends' with durable | last
      · rw [durable] at transient
        cases transient
      · simp at last

variable (key value) in
/-- An assignment binds a name in the frame that it ends in. -/
theorem WellFormed.refilled_assign (wf : t.WellFormed) (hi : i < t.frames.size)
    (h : t.AssignsTo i w) :
    t.Refilled (t.framesWith w key value) (t.assign i key value) := by
  obtain ⟨inner, outer, chain, passed, ends⟩ := h
  have whole := wf.frames_scopeAt chain
  rw [List.map_append, List.map_cons] at whole
  refine wf.refilled_writeBack hi chain (Scope.frames_assign whole ?_ ?_ key value)
  · exact List.forall_mem_map.2 passed
  · exact ends.imp id fun last => List.map_eq_nil_iff.2 last

/-! ## Section 4: What a request leads to -/

theorem WellFormed.ending_eq (wf : t.WellFormed) (i : Nat) : t.ending i = .nil := by
  simp [ending, wf.unnoted]

theorem WellFormed.beyond_eq (wf : t.WellFormed) (i : Nat) (field : String) :
    t.beyond i field = .ok () := by
  rw [beyond, wf.ending_eq]

theorem WellFormed.searchBindings_eq {α : Type} (wf : t.WellFormed) (i : Nat)
    (found : Option α) : t.searchBindings i found = .ok found := by
  cases found with
  | some a => rfl
  | none => rw [searchBindings, wf.beyond_eq]; rfl

theorem WellFormed.datumOf_eq (wf : t.WellFormed) (i : Nat) (k : Native) :
    t.datumOf i k = (sought? k).map (·.bind (t.get? i)) := by
  rw [datumOf]
  cases sought? k with
  | error e => rfl
  | ok name => exact wf.searchBindings_eq i _

theorem WellFormed.ownerOf_eq (wf : t.WellFormed) (i : Nat) (k : Native) :
    t.ownerOf i k = (sought? k).map (·.bind (t.owner? i)) := by
  rw [ownerOf]
  cases sought? k with
  | error e => rfl
  | ok name => exact wf.searchBindings_eq i _

theorem WellFormed.bindDurably_eq (wf : t.WellFormed) (i : Nat) (k value : Native) :
    t.bindDurably i k value = (nameOf k).map fun name => t.assign i name value := by
  rw [bindDurably, wf.beyond_eq]
  split <;> cases nameOf k <;> rfl

/-! ## Section 5: Steps of building -/

theorem WellFormed.bound (wf : t.WellFormed) (h : t.Refilled (t.framesWith w key value) t') :
    t'.WellFormed where
  older j p around := wf.older j p ((h.parents j).symm.trans around)
  unnoted j := by
    rw [h.frames, framesWith]
    split
    next => exact wf.unnoted w
    next => exact wf.unnoted j

theorem WellFormed.push (wf : t.WellFormed) {f : TreeFrame}
    (older : ∀ p, f.parent = some p → p < t.frames.size)
    (unnoted : f.frame.notes.lookup parentNote = none) :
    WellFormed ⟨t.frames.push f⟩ where
  older j p around := by
    rw [parentAt, Array.getElem?_push] at around
    split at around
    next last => exact last ▸ older p around
    next => exact wf.older j p around
  unnoted j := by
    rw [frameAt, Array.getElem?_push]
    split
    next => exact unnoted
    next => exact wf.unnoted j

theorem lookup_parentNote_noted {bindings notes : Bindings}
    (h : notes.lookup parentNote = none) :
    (Frame.noted bindings notes).notes.lookup parentNote = none := by
  rw [List.lookup_eq_none_iff] at h ⊢
  exact fun n hn => h n (List.mem_filter.1 hn).1

theorem Built.wellFormed (h : t.Built) : t.WellFormed := by
  -- on how the frames were made: a new frame is behind its parent, and a binding refills one
  induction h with
  | root bindings =>
    have none : WellFormed ⟨#[]⟩ := ⟨fun _ _ => nofun, fun _ => rfl⟩
    exact none.push (f := ⟨.durable bindings, .none⟩) nofun rfl
  | create bindings parent _ older wf =>
    exact wf.push (f := ⟨.durable bindings, parent⟩) older rfl
  | child _ hi unnoted added wf =>
    rw [addChild] at added
    split at added
    next => cases added
    next =>
      cases added
      refine wf.push ?_ (lookup_parentNote_noted unnoted)
      rw [unnoted]
      rintro p ⟨⟩
      exact hi
  | @bind t t' i key value _ hi bound wf =>
    obtain ⟨name, rfl, rfl⟩ : ∃ name, key = .text name ∧ t' = t.set i name value := by
      cases key <;> cases bound
      exact ⟨_, rfl, rfl⟩
    exact wf.bound (wf.refilled_set name value hi)
  | @assign t t' i key value _ hi bound wf =>
    rw [wf.bindDurably_eq] at bound
    obtain ⟨name, rfl, rfl⟩ : ∃ name, key = .text name ∧ t' = t.assign i name value := by
      cases key <;> cases bound
      exact ⟨_, rfl, rfl⟩
    obtain ⟨w, ends⟩ := wf.exists_assignsTo i
    exact wf.bound (wf.refilled_assign name value hi ends)

/-! ## Section 6: Lookup -/

/-- Does the chain from `i` come to `w` before any other frame that binds the
    name? -/
def Reaches (t : ScopeTree) (i w : Nat) (key : String) : Prop :=
  ∃ inner outer, t.Chain i (inner ++ w :: outer) ∧ ∀ m ∈ inner, t.own m key = none

theorem WellFormed.get?_eq (wf : t.WellFormed) {ns : List Nat} (h : t.Chain i ns)
    (key : String) : t.get? i key = ns.findSome? (t.own · key) := by
  rw [get?, Scope.get?_eq_findSome?, wf.frames_scopeAt h, List.findSome?_map]
  rfl

theorem WellFormed.owner?_eq (wf : t.WellFormed) {ns : List Nat} (h : t.Chain i ns)
    (key : String) : t.owner? i key = ns.find? fun m => (t.own m key).isSome := by
  rw [owner?, Scope.ownerDepth?_eq_findIdx?, wf.frames_scopeAt h, wf.path_of_chain h,
    List.findIdx?_map, List.find?_eq_bind_findIdx?_getElem?]
  rfl

theorem WellFormed.get?_of_reaches (wf : t.WellFormed) (h : t.Reaches i w key)
    (bound : t.own w key = some value) : t.get? i key = some value := by
  obtain ⟨inner, outer, chain, free⟩ := h
  rw [wf.get?_eq chain]
  exact List.findSome?_eq_some_iff.2 ⟨inner, w, outer, rfl, bound, free⟩

theorem WellFormed.owner?_of_reaches (wf : t.WellFormed) (h : t.Reaches i w key)
    (bound : t.own w key = some value) : t.owner? i key = some w := by
  obtain ⟨inner, outer, chain, free⟩ := h
  rw [wf.owner?_eq chain]
  refine List.find?_eq_some_iff_append.2 ⟨by rw [bound]; rfl, inner, outer, rfl, fun m hm => ?_⟩
  rw [free m hm]
  rfl

/-- Either a frame that binds the name is reached, or no frame on the chain
    does. -/
theorem WellFormed.reaches_or (wf : t.WellFormed) (i : Nat) (key : String) :
    (∃ w value, t.Reaches i w key ∧ t.own w key = some value) ∨
      t.get? i key = none ∧ t.owner? i key = none := by
  have chain := wf.chain_path i
  rw [wf.get?_eq chain, wf.owner?_eq chain]
  cases found : (t.path i).findSome? (t.own · key) with
  | some value =>
    obtain ⟨inner, w, outer, split, bound, free⟩ := List.findSome?_eq_some_iff.1 found
    exact .inl ⟨w, value, ⟨inner, outer, split ▸ chain, free⟩, bound⟩
  | none =>
    refine .inr ⟨rfl, List.find?_eq_none.2 fun m hm => ?_⟩
    rw [List.findSome?_eq_none_iff.1 found m hm]
    exact Bool.false_ne_true

/-! ## Section 7: What changes -/

/-- Is the second tree the first one but for the datum of one name in one
    frame?  A name that is new there comes last. -/
structure Rebinds (t : ScopeTree) (w : Nat) (key : String) (value : Native) (t' : ScopeTree) :
    Prop where
  size : t'.frames.size = t.frames.size
  parents : ∀ j, t'.parentAt j = t.parentAt j
  elsewhere : ∀ j, j ≠ w → t'.frameAt j = t.frameAt j
  transient : (t'.frameAt w).transient = (t.frameAt w).transient
  notes : (t'.frameAt w).notes = (t.frameAt w).notes
  bound : t'.own w key = some value
  others : ∀ name, name ≠ key → t'.own w name = t.own w name
  names : (t'.frameAt w).bindings.map Prod.fst =
    if (t.own w key).isSome then (t.frameAt w).bindings.map Prod.fst
    else (t.frameAt w).bindings.map Prod.fst ++ [key]

theorem map_fst_put (bs : Bindings) (key : String) (value : Native) :
    (bs.put key value).map Prod.fst =
      if (bs.lookup key).isSome then bs.map Prod.fst else bs.map Prod.fst ++ [key] := by
  induction bs with
  | nil => rfl
  | cons b bs ih =>
    obtain ⟨k, v⟩ := b
    rw [Bindings.put, List.lookup_cons]
    by_cases same : k = key
    · simp [same]
    · rw [if_neg same, beq_false_of_ne (Ne.symm same), List.map_cons, ih]
      dsimp only
      split <;> rfl

theorem Refilled.rebinds (h : t.Refilled (t.framesWith w key value) t') :
    t.Rebinds w key value t' := by
  have here : t'.frameAt w = (t.frameAt w).put key value := (h.frames w).trans (if_pos rfl)
  refine ⟨h.size, h.parents, fun j other => (h.frames j).trans (if_neg other), ?_, ?_, ?_, ?_, ?_⟩
  · rw [here]; rfl
  · rw [here]; rfl
  · rw [own, here]
    exact Bindings.lookup_put_self _ key value
  · intro name other
    rw [own, here]
    exact Bindings.lookup_put_of_ne _ other value
  · rw [here]
    exact map_fst_put _ key value

/-- Is the new datum seen from the scopes whose chain reaches its frame, and
    everything else as before? -/
def Shows (t : ScopeTree) (w : Nat) (key : String) (value : Native) (t' : ScopeTree) : Prop :=
  ∀ (i : Nat) (k : Native),
    (k = .text key ∧ t.Reaches i w key → t'.datumOf i k = .ok (some value)) ∧
    (¬ (k = .text key ∧ t.Reaches i w key) → t'.datumOf i k = t.datumOf i k)

/-- Searching a list goes the same way after a change at a place that the
    search does not come to. -/
theorem findSome?_of_hidden {α β : Type} {f g : α → Option β} {a : α} {as : List α}
    (same : ∀ b, b ≠ a → g b = f b)
    (hidden : ∀ before after, as = before ++ a :: after → ¬ ∀ b ∈ before, f b = none) :
    as.findSome? g = as.findSome? f := by
  induction as with
  | nil => rfl
  | cons b as ih =>
    have other : b ≠ a := by
      rintro rfl
      exact hidden [] as rfl (List.forall_mem_nil _)
    rw [List.findSome?_cons, List.findSome?_cons, same b other]
    cases here : f b with
    | some c => rfl
    | none =>
      refine ih fun before after split free => hidden (b :: before) after (by rw [split]; rfl) ?_
      exact List.forall_mem_cons.2 ⟨here, free⟩

theorem Rebinds.own_of_ne (h : t.Rebinds w key value t') (other : j ≠ w) (name : String) :
    t'.own j name = t.own j name := by
  rw [own, own, h.elsewhere j other]

theorem Rebinds.get?_reached (h : t.Rebinds w key value t') (wf : t.WellFormed)
    (wf' : t'.WellFormed) (reached : t.Reaches i w key) : t'.get? i key = some value := by
  obtain ⟨inner, outer, chain, free⟩ := reached
  refine wf'.get?_of_reaches ⟨inner, outer, chain_congr h.parents chain, fun m hm => ?_⟩ h.bound
  obtain ⟨-, -, apart⟩ := List.nodup_append.1 (wf.chain_nodup chain)
  rw [h.own_of_ne (apart m hm w List.mem_cons_self)]
  exact free m hm

theorem Rebinds.get?_unreached (h : t.Rebinds w key value t') (wf : t.WellFormed)
    (wf' : t'.WellFormed) {name : String} (unreached : ¬ (name = key ∧ t.Reaches i w key)) :
    t'.get? i name = t.get? i name := by
  have chain := wf.chain_path i
  rw [wf'.get?_eq (chain_congr h.parents chain), wf.get?_eq chain]
  by_cases same : name = key
  · -- the search for the name itself ends in front of `w`, if it gets near it
    subst same
    refine findSome?_of_hidden (fun m other => h.own_of_ne other name) ?_
    exact fun inner outer split free => unreached ⟨rfl, inner, outer, split ▸ chain, free⟩
  · have all : ∀ m, t'.own m name = t.own m name := by
      intro m
      by_cases here : m = w
      · rw [here, h.others name same]
      · exact h.own_of_ne here name
    simp only [all]

theorem Rebinds.shows (h : t.Rebinds w key value t') (wf : t.WellFormed) (wf' : t'.WellFormed) :
    t.Shows w key value t' := by
  intro i k
  rw [wf'.datumOf_eq, wf.datumOf_eq]
  constructor
  · rintro ⟨rfl, reached⟩
    exact congrArg Except.ok (h.get?_reached wf wf' reached)
  · intro unreached
    -- only for a text is anything looked up
    cases sought : sought? k with
    | error e => rfl
    | ok name? =>
      cases name? with
      | none => rfl
      | some name =>
        have text : k = .text name := by
          cases k <;> cases sought
          rfl
        refine congrArg Except.ok (h.get?_unreached wf wf' ?_)
        rintro ⟨rfl, reached⟩
        exact unreached ⟨text, reached⟩

/-- Do all ways to look up a key give one answer?  Either it is a name, and
    they go by the nearest frame that binds it, or nothing is bound to it. -/
inductive Agrees (t : ScopeTree) (i : Nat) (k : Native) : Prop
  | bound {key : String} {w : Nat} {value : Native} : k = .text key →
      t.Reaches i w key → t.own w key = some value →
      t.contains i k = .ok true → t.ownerOf i k = .ok (some w) →
      (∀ default, t.datumOr i k default = .ok value) → t.item i k = .ok value → Agrees t i k
  | unbound : (∀ key w, k = .text key → t.Reaches i w key → t.own w key = none) →
      t.contains i k = .ok false → t.ownerOf i k = .ok none →
      (∀ default, t.datumOr i k default = .ok default) → t.item i k = .error k.missing →
      Agrees t i k

theorem datumOr_eq {k : Native} {value? : Option Native} (h : t.datumOf i k = .ok value?)
    (default : Native) : t.datumOr i k default = .ok (value?.getD default) := by
  rw [datumOr, h]
  rfl

theorem item_of_some {k : Native} (h : t.datumOf i k = .ok (some value)) :
    t.item i k = .ok value := by
  rw [item, h]
  rfl

theorem item_of_none {k : Native} (h : t.datumOf i k = .ok none) :
    t.item i k = .error k.missing := by
  rw [item, h]
  rfl

theorem sought?_of_not_text {k : Native} (isKey : k.isKey = true)
    (other : ∀ key, k ≠ .text key) : sought? k = .ok none := by
  cases k with
  | text key => exact absurd rfl (other key)
  | list | dict => cases isKey
  | _ => rfl

theorem contains_of_not_text {k : Native} (other : ∀ key, k ≠ .text key) :
    t.contains i k = .ok false := by
  cases k with
  | text key => exact absurd rfl (other key)
  | _ => rfl

theorem WellFormed.agrees (wf : t.WellFormed) (i : Nat) {k : Native} (isKey : k.isKey = true) :
    t.Agrees i k := by
  have datum := wf.datumOf_eq i k
  have owner := wf.ownerOf_eq i k
  by_cases text : ∃ key, k = .text key
  · obtain ⟨key, rfl⟩ := text
    have member : t.contains i (.text key) = .ok (t.owner? i key).isSome := by
      rw [contains, owner]
      rfl
    rw [sought?] at datum owner
    -- the name is bound in a frame of the chain, or in none of them
    rcases wf.reaches_or i key with ⟨w, value, reached, bound⟩ | ⟨free, unowned⟩
    · have found : t.datumOf i (.text key) = .ok (some value) := by
        rw [datum, ← wf.get?_of_reaches reached bound]
        rfl
      rw [wf.owner?_of_reaches reached bound] at member
      refine .bound rfl reached bound member ?_ (datumOr_eq found) (item_of_some found)
      rw [owner, ← wf.owner?_of_reaches reached bound]
      rfl
    · have missing : t.datumOf i (.text key) = .ok none := by
        rw [datum, ← free]
        rfl
      rw [unowned] at member
      refine .unbound ?_ member ?_ (datumOr_eq missing) (item_of_none missing)
      · rintro _ w ⟨⟩ reached
        cases bound : t.own w key with
        | none => rfl
        | some value =>
          rw [wf.get?_of_reaches reached bound] at free
          cases free
      · rw [owner, ← unowned]
        rfl
  · -- what is no text can be sought, but nothing is bound to it
    have other : ∀ key, k ≠ .text key := fun key same => text ⟨key, same⟩
    rw [sought?_of_not_text isKey other] at datum owner
    exact .unbound (fun key _ same => absurd same (other key)) (contains_of_not_text other) owner
      (datumOr_eq datum) (item_of_none datum)

/-! ## Section 8: Binding -/

/-- However a tree of scopes has been built, an assignment binds its name in
    the nearest durable frame and nowhere else, and other writes bind it in
    the frame itself.  From then on the new datum is seen from just those
    scopes that come to this frame first, and from all others, and for all
    other keys, nothing has changed.  All lookups of a key agree. -/
theorem Built.binding_seen (built : t.Built) (hi : i < t.frames.size) (key : String)
    (value : Native) :
    (∃ w t', t.AssignsTo i w ∧ t.bindDurably i (.text key) value = .ok t' ∧
      t.Rebinds w key value t' ∧ t.Shows w key value t') ∧
    (∃ t', t.bind i (.text key) value = .ok t' ∧
      t.Rebinds i key value t' ∧ t.Shows i key value t') ∧
    ∀ (j : Nat) (k : Native), k.isKey = true → t.Agrees j k := by
  have wf := built.wellFormed
  obtain ⟨w, ends⟩ := wf.exists_assignsTo i
  have assigned := wf.refilled_assign key value hi ends
  have set := wf.refilled_set key value hi
  refine ⟨⟨w, _, ends, wf.bindDurably_eq i (.text key) value, assigned.rebinds, ?_⟩,
    ⟨_, rfl, set.rebinds, ?_⟩, fun j k isKey => wf.agrees j isKey⟩
  · exact assigned.rebinds.shows wf (wf.bound assigned)
  · exact set.rebinds.shows wf (wf.bound set)

/-- A root that binds a name to nil, a loop in it, an iteration of the loop
    that binds the name to two, and a durable scope next to the iteration. -/
def nested : ScopeTree :=
  ⟨#[⟨.durable [("x", .nil)], none⟩, ⟨.noted [] [], some 0⟩,
    ⟨.noted [("x", .int 2)] [], some 1⟩,
    ⟨.noted [("y", .int 1)] [(transientNote, .bool false)], some 1⟩]⟩

theorem nested_built : nested.Built := by
  have root := Built.root [("x", .nil)]
  have loop := @Built.child _ _ 0 [] [] root Nat.zero_lt_one rfl rfl
  have iteration := @Built.child _ _ 1 [("x", .int 2)] [] loop Nat.one_lt_two rfl rfl
  have beside : 1 < 3 := by decide
  exact @Built.child _ _ 1 [("y", .int 1)] [(transientNote, .bool false)] iteration beside rfl rfl

/-- An assignment in the iteration binds the name in the root.  It is seen
    from the durable scope, and not from the iteration itself. -/
theorem nested_seen :
    nested.Built ∧ 2 < nested.frames.size ∧
    nested.item 3 (.text "x") = .ok .nil ∧
    ∃ t', nested.bindDurably 2 (.text "x") (.int 5) = .ok t' ∧
      t'.datumOf 3 (.text "x") = .ok (some (.int 5)) ∧
      t'.datumOf 2 (.text "x") = .ok (some (.int 2)) := by
  have wf := nested_built.wellFormed
  have within : 2 < nested.frames.size := by decide
  have inner : nested.Chain 2 [2, 1, 0] := .inside rfl (.inside rfl (.outermost rfl))
  have beside : nested.Chain 3 [3, 1, 0] := .inside rfl (.inside rfl (.outermost rfl))
  have durable : nested.Reaches 3 0 "x" := ⟨[3, 1], [], beside, by decide⟩
  obtain ⟨⟨w, t', ends, assigned, -, shows⟩, -, agree⟩ :=
    nested_built.binding_seen within "x" (.int 5)
  obtain rfl : w = 0 := ends.unique wf ⟨[2, 1], [], inner, by decide, .inr rfl⟩
  -- the chain from the iteration begins with the iteration, which binds the name
  have hidden : ¬ nested.Reaches 2 0 "x" := by
    rintro ⟨before, after, chain, free⟩
    have split := (wf.path_of_chain inner).symm.trans (wf.path_of_chain chain)
    cases before with
    | nil => cases split
    | cons m before =>
      obtain ⟨rfl, -⟩ := List.cons.inj split
      exact absurd (free 2 List.mem_cons_self) (by decide)
  refine ⟨nested_built, within, item_of_some ?_, t', assigned, ?_, ?_⟩
  · rw [wf.datumOf_eq]
    exact congrArg Except.ok (wf.get?_of_reaches durable rfl)
  · exact (shows 3 (.text "x")).1 ⟨rfl, durable⟩
  · rw [(shows 2 (.text "x")).2 fun seen => hidden seen.2, wf.datumOf_eq]
    exact congrArg Except.ok (wf.get?_of_reaches ⟨[], [1, 0], inner, List.forall_mem_nil _⟩ rfl)

end ScopeTree

end Stencil
