import Stencil.Native.Print
import Stencil.Proofs.Value.Outcome
import Stencil.Statement.Eval

/-! # Faults of looking into values

    Each operation on values gives sound values from sound ones, and fails
    with ordinary faults only. -/

namespace Stencil

variable {sound : Prop}

/-! ## Section 1: Equality -/

namespace Native

theorem equalMembers_meets (ns : List Int) {bs : List Native} (h : sound → SoundItems bs) :
    Meets (fun _ => True) (Fault.IsOrdinary sound) (equalMembers ns bs) := by
  induction ns generalizing bs with
  | nil => exact .ok trivial
  | cons n ns ih =>
    cases bs with
    | nil => exact .ok trivial
    | cons b bs =>
      refine Meets.bind (wrap_meets fun holds => (h holds).1) fun v _ => ?_
      have rest := ih fun holds => (h holds).2
      split
      · split
        · exact rest
        · exact .ok trivial
      · exact .ok trivial

theorem sound_getD_lookup? {entries : List (Native × Native)} (h : (dict entries).Sound)
    (key : Native) : ((lookup? entries key).getD .nil).Sound := by
  cases found : lookup? entries key with
  | none => exact trivial
  | some value => exact sound_of_lookup? h found

theorem equalAtomEntries_meets (as : List (Native × Native)) {bs : List (Native × Native)}
    (h : sound → (dict bs).Sound) :
    Meets (fun _ => True) (Fault.IsOrdinary sound) (equalAtomEntries as bs) := by
  induction as with
  | nil => exact .ok trivial
  | cons a as ih =>
    obtain ⟨k, v⟩ := a
    refine Meets.bind (wrap_meets fun holds => sound_getD_lookup? (h holds) k) fun w _ => ?_
    split
    · exact ih
    · exact .ok trivial

theorem soundItems_ints (ns : List Int) : SoundItems (ns.map .int) := by
  rw [soundItems_iff]
  intro n hn
  obtain ⟨i, -, rfl⟩ := List.mem_map.1 hn
  exact trivial

mutual

theorem equal_meets : (a b : Native) → (sound → a.Sound) → (sound → b.Sound) →
    Meets (fun _ => True) (Fault.IsOrdinary sound) (a.equal b)
  | .list as, b, ha, hb => by
    rw [equal]
    refine Meets.bind (wrap_meets hb) fun v hv => ?_
    split
    · split
      · exact equalItems_meets as _ ha hv
      · exact .ok trivial
    · split
      · exact equalItems_meets as _ ha fun _ => soundItems_ints _
      · exact .ok trivial
    · refine Meets.bind (Progression.count_meets _) fun _ _ => ?_
      split
      · exact equalItems_meets as _ ha fun _ => soundItems_ints _
      · exact .ok trivial
    · exact .ok trivial
  | .bytes as, b, _, hb => by
    rw [equal]
    refine Meets.bind (wrap_meets hb) fun v hv => ?_
    split
    · split
      · exact equalMembers_meets _ hv
      · exact .ok trivial
    · exact .ok trivial
    · refine Meets.bind (Progression.count_meets _) fun _ _ => ?_
      split
      · exact equalMembers_meets _ fun _ => soundItems_ints _
      · exact .ok trivial
    · exact .ok trivial
  | .dict as, b, ha, hb => by
    rw [equal]
    refine Meets.bind (wrap_meets hb) fun v hv => ?_
    split
    · split
      · exact equalEntries_meets as _ ha hv
      · exact .ok trivial
    · exact .ok trivial
  | .range r, b, _, hb => by
    rw [equal]
    refine Meets.bind (wrap_meets hb) fun v hv => ?_
    split
    · refine Meets.bind (Progression.count_meets _) fun _ _ => ?_
      split
      · exact equalMembers_meets _ hv
      · exact .ok trivial
    · refine Meets.bind (Progression.count_meets _) fun _ _ => ?_
      split
      · exact equalMembers_meets _ fun _ => soundItems_ints _
      · exact .ok trivial
    · refine Meets.bind (Progression.count_meets _) fun _ _ => ?_
      exact Meets.bind (Progression.count_meets _) fun _ _ => .ok trivial
    · exact .ok trivial
  | .loop p, b, ha, hb => by
    rw [equal]
    have entries : Meets _ (Fault.IsOrdinary sound) (p.entries.mapError .operand) :=
      (LoopPosition.entries_meets ha).mapError fun _ hc => .inr hc
    refine Meets.bind entries fun as _ => ?_
    refine Meets.bind (wrap_meets hb) fun v hv => ?_
    split
    · split
      · exact equalAtomEntries_meets _ hv
      · exact .ok trivial
    · exact .ok trivial
  | .nil, b, ha, hb | .bool _, b, ha, hb | .int _, b, ha, hb | .float _, b, ha, hb
  | .text _, b, ha, hb | .date _, b, ha, hb => by
    rw [equal]
    · refine Meets.bind (wrap_meets ha) fun _ _ => ?_
      exact Meets.bind (wrap_meets hb) fun _ _ => .ok trivial
    all_goals exact nofun

theorem equalItems_meets : (as bs : List Native) → (sound → SoundItems as) →
    (sound → SoundItems bs) →
    Meets (fun _ => True) (Fault.IsOrdinary sound) (equalItems as bs)
  | [], _, _, _ => by rw [equalItems]; exact .ok trivial; exact nofun
  | _ :: _, [], _, _ => by rw [equalItems]; exact .ok trivial; exact nofun
  | a :: as, b :: bs, ha, hb => by
    rw [equalItems]
    have front := equal_meets a b (fun holds => (ha holds).1) fun holds => (hb holds).1
    refine Meets.bind front fun same _ => ?_
    split
    · exact equalItems_meets as bs (fun holds => (ha holds).2) fun holds => (hb holds).2
    · exact .ok trivial

theorem equalEntries_meets : (as bs : List (Native × Native)) → (sound → SoundEntries as) →
    (sound → SoundEntries bs) →
    Meets (fun _ => True) (Fault.IsOrdinary sound) (equalEntries as bs)
  | [], _, _, _ => by rw [equalEntries]; exact .ok trivial
  | (k, v) :: as, bs, ha, hb => by
    rw [equalEntries]
    have front := equal_meets v ((lookup? bs k).getD .nil) (fun holds => (ha holds).2.1)
      fun holds => sound_getD_lookup? (hb holds) k
    refine Meets.bind front fun same _ => ?_
    split
    · exact equalEntries_meets as bs (fun holds => (ha holds).2.2) hb
    · exact .ok trivial

end

/-! ## Section 2: Notation -/

theorem writeInt_meets (n : Int) :
    Meets (fun _ => True) OperandFault.IsUnguarded (writeInt n) := by
  unfold writeInt Numeral.write
  split
  · exact .ok trivial
  · exact .error trivial

theorem display_range_meets (r : Progression) :
    Meets (fun _ => True) OperandFault.IsUnguarded r.display := by
  refine Meets.bind (writeInt_meets _) fun _ _ => Meets.bind (writeInt_meets _) fun _ _ => ?_
  split
  · exact .ok trivial
  · exact Meets.bind (writeInt_meets _) fun _ _ => .ok trivial

theorem display_loop_meets (p : LoopPosition) :
    Meets (fun _ => True) OperandFault.IsUnguarded p.display := by
  refine Meets.bind (writeInt_meets _) fun _ _ => Meets.bind (writeInt_meets _) fun _ _ => ?_
  split
  · exact .ok trivial
  · exact Meets.bind (writeInt_meets _) fun _ _ => .ok trivial

mutual

/-- Only an integer that is too long has no notation. -/
theorem display_meets : (n : Native) → Meets (fun _ => True) OperandFault.IsUnguarded n.display
  | .nil | .bool _ | .float _ | .text _ | .bytes _ | .date _ => by
    rw [display]
    exact .ok trivial
  | .int n => by rw [display]; exact writeInt_meets n
  | .list items => by
    rw [display]
    exact Meets.bind (displayItems_meets items) fun _ _ => .ok trivial
  | .dict entries => by
    rw [display]
    exact Meets.bind (displayEntries_meets entries) fun _ _ => .ok trivial
  | .range r => by rw [display]; exact display_range_meets r
  | .loop p => by rw [display]; exact display_loop_meets p

theorem displayItems_meets : (ns : List Native) →
    Meets (fun _ => True) OperandFault.IsUnguarded (displayItems ns)
  | [] => by rw [displayItems]; exact .ok trivial
  | n :: ns => by
    rw [displayItems]
    refine Meets.bind (display_meets n) fun _ _ => ?_
    exact Meets.bind (displayItems_meets ns) fun _ _ => .ok trivial

theorem displayEntries_meets : (entries : List (Native × Native)) →
    Meets (fun _ => True) OperandFault.IsUnguarded (displayEntries entries)
  | [] => by rw [displayEntries]; exact .ok trivial
  | (k, v) :: rest => by
    rw [displayEntries]
    refine Meets.bind (display_meets k) fun _ _ => Meets.bind (display_meets v) fun _ _ => ?_
    exact Meets.bind (displayEntries_meets rest) fun _ _ => .ok trivial

end

theorem mapM_writeInt_meets (ns : List Int) :
    Meets (fun _ => True) OperandFault.IsUnguarded (ns.mapM writeInt) := by
  induction ns with
  | nil => exact .ok trivial
  | cons n ns ih =>
    rw [List.mapM_cons]
    exact Meets.bind (writeInt_meets n) fun _ _ => Meets.bind ih fun _ _ => .ok trivial

mutual

/-- Only an integer that is too long cannot be printed. -/
theorem printAs_meets (inspected : Bool) : (n : Native) →
    Meets (fun _ => True) OperandFault.IsUnguarded (n.printAs inspected)
  | .nil | .bool _ | .float _ | .text _ | .date _ => by rw [printAs]; exact .ok trivial
  | .bytes bs => by
    rw [printAs]
    exact Meets.bind (mapM_writeInt_meets _) fun _ _ => .ok trivial
  | .int n => by rw [printAs]; exact writeInt_meets n
  | .list items => by
    rw [printAs]
    exact Meets.bind (printItems_meets items) fun _ _ => .ok trivial
  | .dict entries => by
    rw [printAs]
    exact Meets.bind (printEntries_meets entries) fun _ _ => .ok trivial
  | .range r => by
    rw [printAs]
    exact Meets.bind (mapM_writeInt_meets _) fun _ _ => .ok trivial
  | .loop p => by rw [printAs]; exact display_loop_meets p

theorem printItems_meets : (ns : List Native) →
    Meets (fun _ => True) OperandFault.IsUnguarded (printItems ns)
  | [] => by rw [printItems]; exact .ok trivial
  | n :: ns => by
    rw [printItems]
    refine Meets.bind (printAs_meets false n) fun _ _ => ?_
    exact Meets.bind (printItems_meets ns) fun _ _ => .ok trivial

theorem printEntries_meets : (entries : List (Native × Native)) →
    Meets (fun _ => True) OperandFault.IsUnguarded (printEntries entries)
  | [] => by rw [printEntries]; exact .ok trivial
  | (k, v) :: rest => by
    rw [printEntries]
    refine Meets.bind (printAs_meets true k) fun _ _ =>
      Meets.bind (printAs_meets true v) fun _ _ => ?_
    exact Meets.bind (printEntries_meets rest) fun _ _ => .ok trivial

end

end Native

/-! ## Section 3: Looking into values -/

namespace Value

theorem sound_ofInt (n : Int) : (ofInt n).Sound := trivial

theorem truth_meets (v : Value) : Meets (fun _ => True) (Fault.IsOrdinary sound) v.truth := by
  cases v with
  | range r => exact Meets.map (Progression.count_meets r) fun _ _ => trivial
  | _ => exact .ok trivial

theorem wrapMember_meets {n : Option Native} (h : sound → ∀ m ∈ n, m.Sound) :
    Meets (fun v : Value => sound → v.Sound) (Fault.IsOrdinary sound) (wrapMember n) := by
  cases n with
  | none => exact .ok fun _ => trivial
  | some n => exact Native.wrap_meets fun holds => h holds n rfl

theorem itemsProperty_meets {items : List Native} (h : sound → Native.SoundItems items)
    (name : String) :
    Meets (fun w : Value => sound → w.Sound) (Fault.IsOrdinary sound)
      (itemsProperty items name) := by
  unfold itemsProperty
  split
  · exact .ok fun _ => trivial
  · refine wrapMember_meets fun holds n hn => ?_
    exact Native.soundItems_iff.1 (h holds) n (List.mem_of_mem_head? hn)
  · refine wrapMember_meets fun holds n hn => ?_
    exact Native.soundItems_iff.1 (h holds) n (List.mem_of_mem_getLast? hn)
  · exact .ok fun _ => trivial

theorem property_meets {v : Value} (h : sound → v.Sound) (name : String) :
    Meets (fun w : Value => sound → w.Sound) (Fault.IsOrdinary sound) (v.property name) := by
  unfold property
  -- in the order of the definition: what cannot be counted is the only fault of a range
  split
  · exact .ok fun _ => trivial
  · exact itemsProperty_meets h name
  · exact itemsProperty_meets (fun _ => Native.soundItems_ints _) name
  · refine Meets.map (?_ : Meets (fun _ => True) _ _) fun _ _ _ => trivial
    exact Meets.bind (Progression.count_meets _) fun _ _ => .ok trivial
  · refine Meets.map (Progression.count_meets _) fun n _ _ => ?_
    split <;> exact trivial
  · refine Meets.map (Progression.count_meets _) fun n _ _ => ?_
    split <;> exact trivial
  · split
    next found => exact Native.wrap_meets fun holds => Native.sound_of_lookup? (h holds) found
    next =>
      refine .ok fun _ => ?_
      split <;> exact trivial
  · exact .ok fun _ => trivial

theorem itemAt_meets {items : List Native} (h : sound → Native.SoundItems items) (k : Number) :
    Meets (fun w : Value => sound → w.Sound) (Fault.IsOrdinary sound) (itemAt items k) := by
  unfold itemAt
  split
  · refine wrapMember_meets fun holds n hn => ?_
    exact Native.soundItems_iff.1 (h holds) n (List.mem_of_getElem? hn)
  · exact .ok fun _ => trivial

theorem index_meets {v : Value} (h : sound → v.Sound) (key : Value) :
    Meets (fun w : Value => sound → w.Sound) (Fault.IsOrdinary sound) (v.index key) := by
  unfold index
  split
  · exact itemAt_meets h _
  · exact itemAt_meets (fun _ => Native.soundItems_ints _) _
  · split
    · refine Meets.map (Progression.count_meets _) fun n _ _ => ?_
      split <;> exact trivial
    · exact .ok fun _ => trivial
  · split
    · exact wrapMember_meets fun holds n hn => Native.sound_of_lookup? (h holds) hn
    · exact .ok fun _ => trivial
  · exact .ok fun _ => trivial

theorem memItems_meets {ns : List Native} (h : sound → Native.SoundItems ns) {v : Value}
    (hv : sound → v.Sound) :
    Meets (fun _ => True) (Fault.IsOrdinary sound) (memItems ns v) := by
  induction ns with
  | nil => exact .ok trivial
  | cons n ns ih =>
    refine Meets.bind (Native.equal_meets n _ (fun holds => (h holds).1) hv) fun same _ => ?_
    split
    · exact .ok trivial
    · exact ih fun holds => (h holds).2

theorem contains_meets {v w : Value} (h : sound → v.Sound) (hw : sound → w.Sound) :
    Meets (fun _ => True) (Fault.IsOrdinary sound) (v.contains w) := by
  unfold contains
  split
  · exact .ok trivial
  · refine Meets.bind ((Native.display_meets _).mapError fun _ hc => ?_) fun _ _ => .ok trivial
    exact Or.inl hc
  · exact memItems_meets h hw
  · exact memItems_meets (fun _ => Native.soundItems_ints _) hw
  · exact .ok trivial
  · exact .ok trivial
  · exact .ok trivial

theorem wrapAll_meets {ns : List Native} (h : sound → Native.SoundItems ns) :
    Meets (fun vs => sound → ∀ v ∈ vs, Value.Sound v) (Fault.IsOrdinary sound) (wrapAll ns) := by
  induction ns with
  | nil => exact .ok fun _ => by simp
  | cons n ns ih =>
    refine Meets.bind (Native.wrap_meets fun holds => (h holds).1) fun v hv => ?_
    refine Meets.bind (ih fun holds => (h holds).2) fun vs hvs => .ok fun holds => ?_
    exact List.forall_mem_cons.2 ⟨hv holds, hvs holds⟩

/-! ## Section 4: Integers -/

theorem notInteger_isOrdinary (v : Value) : (notInteger v).IsOrdinary sound := by
  unfold notInteger
  split
  next => exact trivial
  next cause hc => exact .inl ((Native.display_meets _).of_error hc)

theorem readInt_meets (s : String) :
    Meets (fun _ => True) (fun cause => (OperandFault.numeral cause).IsUnguarded)
      (Numeral.readInt s) := by
  unfold Numeral.readInt
  simp only
  split
  · exact .error trivial
  · split
    · exact .error trivial
    · split
      · exact .error trivial
      · exact .ok trivial

theorem toInt_meets (v : Value) : Meets (fun _ => True) (Fault.IsOrdinary sound) v.toInt := by
  unfold toInt
  split
  · split
    · exact .ok trivial
    · split
      · exact .error trivial
      next cause hc => exact .error (.inl ((Native.display_meets _).of_error hc))
  · split
    · exact (readInt_meets _).mapError fun _ hc => .inl hc
    · exact .error (notInteger_isOrdinary _)
  · exact .error (notInteger_isOrdinary _)

end Value

/-! ## Section 5: Relations -/

theorem Relation.holds_meets (r : Relation) {v w : Value} (h : sound → v.Sound)
    (hw : sound → w.Sound) :
    Meets (fun _ => True) (Fault.IsOrdinary sound) (r.holds v w) := by
  have equal : Meets (fun _ => True) (Fault.IsOrdinary sound) (v.equal w) :=
    Native.equal_meets _ _ h hw
  -- the order of two values never fails, and equality is only asked when it is not given
  cases r with
  | eq => exact equal
  | neq => exact Meets.map equal fun _ _ => trivial
  | lt => exact .ok trivial
  | gt => exact .ok trivial
  | le =>
    show Meets _ _ (if v.less w then .ok true else v.equal w)
    split
    · exact .ok trivial
    · exact equal
  | ge =>
    show Meets _ _ (if w.less v then .ok true else v.equal w)
    split
    · exact .ok trivial
    · exact equal
  | contains => exact Value.contains_meets h hw
  | isIn => exact Value.contains_meets hw h

end Stencil
