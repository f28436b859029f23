import Stencil.Proofs.Value.Equality

/-! # Looking up keys

    A mapping is searched for a key as the host searches its dictionaries,
    and not by comparing values.  The search comes to this: a key is found
    that is equal to what is looked up, unless one of the two is bytes and
    the other one a range, or that the host takes for it although the two
    values are unequal, which happens in four ways; and what cannot be a
    key itself is never found. -/

namespace Stencil

/-! ## Section 1: Dictionaries -/

namespace Native

/-- Are the entries those of a dictionary?  The keys are keys, and no two of
    them are the same. -/
def IsDictionary (entries : List (Native × Native)) : Prop :=
  (∀ e ∈ entries, e.1.isKey = true) ∧ entries.Pairwise fun e f => same e.1 f.1 = false

variable {entries : List (Native × Native)} {k : Native}

theorem mem_store {key value : Native} {e : Native × Native}
    (h : e ∈ store entries key value) :
    (∃ f ∈ entries, f.1 = e.1) ∨ (e.1 = key ∧ ∀ f ∈ entries, same f.1 key = false) := by
  induction entries with
  | nil =>
    obtain rfl := List.mem_singleton.1 h
    exact .inr ⟨rfl, List.forall_mem_nil _⟩
  | cons f entries ih =>
    obtain ⟨l, w⟩ := f
    rw [store] at h
    split at h
    · rcases List.mem_cons.1 h with rfl | later
      · exact .inl ⟨(l, w), List.mem_cons_self, rfl⟩
      · exact .inl ⟨e, List.mem_cons_of_mem _ later, rfl⟩
    · rename_i other
      rcases List.mem_cons.1 h with rfl | later
      · exact .inl ⟨(l, w), List.mem_cons_self, rfl⟩
      · rcases ih later with ⟨f, hf, same⟩ | ⟨here, absent⟩
        · exact .inl ⟨f, List.mem_cons_of_mem _ hf, same⟩
        · exact .inr ⟨here, List.forall_mem_cons.2 ⟨by simpa using other, absent⟩⟩

/-- Storing under a key leaves a dictionary. -/
theorem IsDictionary.store (h : IsDictionary entries) {key : Native} (isKey : key.isKey = true)
    (value : Native) : IsDictionary (store entries key value) := by
  constructor
  · intro e he
    rcases mem_store he with ⟨f, hf, same⟩ | ⟨here, -⟩
    · exact same ▸ h.1 f hf
    · exact here ▸ isKey
  · induction entries with
    | nil => exact List.pairwise_singleton _ _
    | cons f entries ih =>
      obtain ⟨keys, apart⟩ := h
      rw [List.forall_mem_cons] at keys
      rw [List.pairwise_cons] at apart
      rw [Native.store]
      split
      · exact List.pairwise_cons.2 ⟨apart.1, apart.2⟩
      · rename_i other
        refine List.pairwise_cons.2 ⟨fun e he => ?_, ih ⟨keys.2, apart.2⟩⟩
        rcases mem_store he with ⟨g, hg, same⟩ | ⟨here, -⟩
        · exact same ▸ apart.1 g hg
        · exact here ▸ by simpa using other

/-- Something is stored under a key exactly if one of the keys is the same. -/
theorem isSome_lookup? : (lookup? entries k).isSome = true ↔ ∃ e ∈ entries, same e.1 k = true := by
  rw [lookup?, Option.isSome_map, List.find?_isSome]

/-- What a dictionary stores with a key is found under it. -/
theorem IsDictionary.lookup?_eq (h : IsDictionary entries) (isKey : k.isKey = true)
    {e : Native × Native} (he : e ∈ entries) (here : same e.1 k = true) :
    lookup? entries k = some e.2 := by
  induction entries with
  | nil => cases he
  | cons f entries ih =>
    obtain ⟨keys, apart⟩ := h
    rw [List.forall_mem_cons] at keys
    rw [List.pairwise_cons] at apart
    obtain ⟨l, w⟩ := f
    rw [lookup?_cons]
    rcases List.mem_cons.1 he with rfl | later
    · exact if_pos here
    · -- an earlier key that is the same would be the same as the later one
      have other : ¬ same l k = true := by
        intro first
        have both : l.key = e.1.key :=
          ((same_iff keys.1 isKey).1 first).trans ((same_iff (keys.2 e later) isKey).1 here).symm
        have met := (same_iff keys.1 (keys.2 e later)).2 both
        rw [apart.1 e later] at met
        cases met
      rw [if_neg other]
      exact ih ⟨keys.2, apart.2⟩ later

end Native

/-! ## Section 2: What the host takes for a key -/

/-- The number that a truth value counts as. -/
def Number.ofBool (b : Bool) : Number :=
  .int (if b then 1 else 0)

/-- Is the value looked up found at a key of another value?  Truth values
    count as numbers; what is not a number is the same as itself; and
    ranges are the same also when they have too many members to be
    compared as values. -/
inductive Value.TakenFor : Value → Value → Prop
  | boolean {b : Bool} {n : Number} : Number.equal (Number.ofBool b) n = true →
      TakenFor (.boolean b) (.number n)
  | number {n : Number} {b : Bool} : Number.equal n (Number.ofBool b) = true →
      TakenFor (.number n) (.boolean b)
  | notANumber (origin : Double.Origin) :
      TakenFor (.number (.float (.nan origin))) (.number (.float (.nan origin)))
  | uncounted {r s : Progression} : r.members = s.members → countLimit < r.length →
      TakenFor (.range r) (.range s)

/-- Are these bytes and a range?  As keys the two are told apart, also if
    they are equal as values. -/
inductive Value.Overlooks : Value → Value → Prop
  | bytes {bs : List UInt8} {r : Progression} : Overlooks (.bytes bs) (.range r)
  | range {r : Progression} {bs : List UInt8} : Overlooks (.range r) (.bytes bs)

/-- Do two values, the first of which is that of a key, count as one key? -/
def Value.MetBy (x k : Value) : Prop :=
  (x.equal k = .ok true ∧ ¬ x.Overlooks k) ∨ x.TakenFor k

/-- Does a mapping that has the key `x` find it when it looks up `k`? -/
def Value.FoundAs (x k : Value) : Prop :=
  k.native.isKey = true ∧ x.MetBy k

theorem Number.same_ofBool (b : Bool) (n : Number) :
    Number.same (.int (if b then 1 else 0)) n = Number.equal (Number.ofBool b) n := by
  rcases n with _ | (_ | _ | _) <;> rfl

theorem Number.same_eq_true_iff (m n : Number) :
    Number.same m n = true ↔
      Number.equal m n = true ∨ ∃ origin, m = .float (.nan origin) ∧ n = .float (.nan origin) := by
  by_cases both : (∃ p, m = .float (.nan p)) ∧ ∃ q, n = .float (.nan q)
  · obtain ⟨⟨p, rfl⟩, q, rfl⟩ := both
    simp [same, equal, rank?, eq_comm]
  · have compared : same m n = equal m n := by
      rw [same]
      rintro p q rfl rfl
      exact both ⟨⟨p, rfl⟩, q, rfl⟩
    rw [compared, or_iff_left]
    rintro ⟨origin, rfl, rfl⟩
    exact both ⟨⟨origin, rfl⟩, origin, rfl⟩

/-! ## Section 3: Keys of one kind and another -/

namespace Value

variable {n : Native} {x k : Value}

/-- The value of a key is that of the key itself, but for the position of a
    loop, which has become a mapping. -/
theorem native_of_wrap_key (isKey : n.isKey = true) (wrapped : n.wrap = .ok x) :
    x.native = n ∨ ((∃ p, n = .loop p) ∧ ∃ entries, x = .mapping entries) := by
  cases n with
  | list | dict => cases isKey
  | date => cases wrapped
  | loop p =>
    refine .inr ⟨⟨p, rfl⟩, ?_⟩
    rw [Native.wrap] at wrapped
    cases made : p.entries with
    | error e => rw [made] at wrapped; cases wrapped
    | ok entries => rw [made] at wrapped; cases wrapped; exact ⟨entries, rfl⟩
  | _ => cases wrapped; exact .inl rfl

theorem takenFor_numbers {m n : Number} :
    TakenFor (.number m) (.number n) ↔
      ∃ origin, m = .float (.nan origin) ∧ n = .float (.nan origin) := by
  constructor
  · intro h
    cases h with
    | notANumber origin => exact ⟨origin, rfl, rfl⟩
  · rintro ⟨origin, rfl, rfl⟩
    exact .notANumber origin

/-! ### Numbers and truth values -/

theorem same_boolean_number (b : Bool) (n : Number) :
    Native.same (.bool b) n.native = Number.equal (Number.ofBool b) n := by
  rw [← Number.same_ofBool]
  cases n <;> rfl

theorem same_number_boolean (m : Number) (b : Bool) :
    Native.same m.native (.bool b) = Number.equal m (Number.ofBool b) := by
  rcases m with _ | (_ | _ | _) <;> rfl

theorem same_booleans (b c : Bool) : Native.same (.bool b) (.bool c) = decide (b = c) := by
  show Number.equal (.int (if b then 1 else 0)) (.int (if c then 1 else 0)) = _
  rw [Number.equal_int]
  cases b <;> cases c <;> rfl

theorem same_numbers (m n : Number) : Native.same m.native n.native = Number.same m n := by
  cases m <;> cases n <;> rfl

/-- Keys without members are told apart as values are, numbers and truth
    values excepted. -/
theorem same_atom (atom : x.native.hasMembers = false) (key : k.native.isKey = true) :
    Native.same x.native k.native = true ↔ Native.equalAtom x.native k = true ∨ x.TakenFor k := by
  have alike {a b : Bool} {p : Prop} (same : a = b) (never : ¬ p) : a = true ↔ b = true ∨ p := by
    rw [same, or_iff_left never]
  have taken {a b : Bool} {p : Prop} (unequal : b = false) (counts : a = true ↔ p) :
      a = true ↔ b = true ∨ p := by
    rw [counts, unequal, or_iff_right Bool.false_ne_true]
  -- a truth value and a number are unequal as values, and so the one may be taken for the other;
  -- all other pairs but two numbers are compared alike
  cases x with
  | sequence | bytes | mapping | range => cases atom
  | nil | string => cases k <;> first
    | (cases key; done)
    | exact alike rfl (by rintro ⟨⟩)
    | (rename_i m; cases m <;> exact alike rfl (by rintro ⟨⟩))
  | boolean b =>
    cases k with
    | sequence | mapping => cases key
    | number n =>
      refine taken rfl ⟨fun same => .boolean ((same_boolean_number b n).symm.trans same), ?_⟩
      rintro ⟨equal⟩
      exact (same_boolean_number b n).trans equal
    | boolean c => exact alike (same_booleans b c) (by rintro ⟨⟩)
    | _ => exact alike rfl (by rintro ⟨⟩)
  | number m =>
    cases k with
    | sequence | mapping => cases key
    | number n =>
      have compared : Native.equalAtom m.native (.number n) = Number.equal m n := by
        cases m <;> rfl
      rw [takenFor_numbers, Value.native, Value.native, same_numbers, compared,
        Number.same_eq_true_iff]
    | boolean b =>
      refine taken (by cases m <;> rfl)
        ⟨fun same => .number ((same_number_boolean m b).symm.trans same), ?_⟩
      intro told
      cases told with
      | number equal => exact (same_number_boolean m b).trans equal
    | _ => cases m <;> exact alike rfl (by rintro ⟨⟩)

/-! ### Ranges -/

/-- Ranges are equal if they have the same members and these can be
    counted. -/
theorem equal_ranges {r s : Progression} :
    (range r).equal (.range s) = .ok true ↔ r.members = s.members ∧ r.length ≤ countLimit := by
  have compared : (range r).equal (.range s) =
      r.count >>= fun _ => s.count >>= fun _ => .ok (r.same s) := by
    rw [Value.equal, native, native, Native.equal]
    rfl
  rw [compared]
  by_cases counted : r.length ≤ countLimit
  · rw [Progression.count_eq counted, and_iff_left counted, ← Progression.same_iff]
    by_cases other : s.length ≤ countLimit
    · rw [Progression.count_eq other]
      exact ⟨Except.ok.inj, congrArg Except.ok⟩
    · rw [Progression.count_eq_error other, Progression.same_of_length_ne (by omega)]
      exact iff_of_false (by rintro ⟨⟩) Bool.false_ne_true
  · rw [Progression.count_eq_error counted]
    exact iff_of_false (by rintro ⟨⟩) fun h => counted h.2

/-- A range is equal to no value of another sort that can be a key, but for
    bytes. -/
theorem equal_range_key {r : Progression} (key : k.native.isKey = true)
    (other : ∀ s, k ≠ .range s) (apart : ¬ (range r).Overlooks k) :
    (range r).equal k = .ok false := by
  have compared : (range r).equal k = Native.equal (.range r) k.native := rfl
  rw [compared, Native.equal, wrap_native]
  cases k with
  | sequence | mapping => cases key
  | bytes bs => exact absurd .range apart
  | range s => exact absurd rfl (other s)
  | _ => rfl

/-- Ranges are told apart as values are, bytes and those too long to be
    compared excepted. -/
theorem same_range {r : Progression} (key : k.native.isKey = true) :
    Native.same (.range r) k.native = true ↔ (range r).MetBy k := by
  -- only another range is the same as a range
  by_cases ranges : ∃ s, k = .range s
  · obtain ⟨s, rfl⟩ := ranges
    have seen : ¬ (range r).Overlooks (.range s) := nofun
    have uncounted : (range r).TakenFor (.range s) ↔
        r.members = s.members ∧ ¬ r.length ≤ countLimit := by
      refine ⟨?_, fun h => .uncounted h.1 (Nat.not_le.1 h.2)⟩
      intro told
      cases told with
      | uncounted same long => exact ⟨same, Nat.not_le.2 long⟩
    have same : Native.same (.range r) (.range s) = r.same s := rfl
    rw [MetBy, and_iff_left seen, uncounted, equal_ranges, ← and_or_left,
      and_iff_left (Decidable.em _), native, same, Progression.same_iff]
  · have apart : Native.same (.range r) k.native = false := by
      cases k with
      | range s => exact absurd ⟨s, rfl⟩ ranges
      | number m => cases m <;> rfl
      | _ => rfl
    rw [apart]
    refine iff_of_false Bool.false_ne_true ?_
    intro found
    rcases found with ⟨equal, seen⟩ | told
    · rw [equal_range_key key (fun s h => ranges ⟨s, h⟩) seen] at equal
      cases equal
    · cases told
      exact ranges ⟨_, rfl⟩

/-! ### Bytes -/

/-- Bytes are told apart as values are, ranges excepted. -/
theorem same_bytes {bs : List UInt8} (key : k.native.isKey = true) :
    Native.same (.bytes bs) k.native = true ↔ (bytes bs).MetBy k := by
  have untaken : ¬ (bytes bs).TakenFor k := by
    intro taken
    cases taken
  rw [MetBy, or_iff_left untaken]
  cases k with
  | sequence | mapping => cases key
  | bytes cs =>
    have seen : ¬ (bytes bs).Overlooks (.bytes cs) := by
      intro overlooked
      cases overlooked
    have same : Native.same (.bytes bs) (.bytes cs) = decide (bs = cs) := by rw [Native.same]
    have compared : (bytes bs).equal (.bytes cs) = .ok (decide (bs = cs)) := by
      rw [Value.equal, native, native, Native.equal]
      rfl
    rw [and_iff_left seen, native, same, compared, Except.ok.injEq]
  | range r =>
    refine iff_of_false (fun same => ?_) fun found => found.2 .bytes
    cases same
  | number m =>
    cases m <;>
    · refine iff_of_false (fun same => ?_) fun found => ?_
      · cases same
      · cases found.1
  | _ =>
    refine iff_of_false (fun same => ?_) fun found => ?_
    · cases same
    · cases found.1

/-- The mapping that the position of a loop becomes is equal to no value that
    can be a key. -/
theorem equal_mapping_key {entries : List (Native × Native)} (key : k.native.isKey = true) :
    (mapping entries).equal k = .ok false := by
  rw [Value.equal, native, Native.equal, wrap_native]
  cases k with
  | sequence | mapping => cases key
  | _ => rfl

/-- A key of a dictionary is the same as what is looked up exactly if their
    values count as one key. -/
theorem same_iff_of_wrap (isKey : n.isKey = true) (wrapped : n.wrap = .ok x)
    (key : k.native.isKey = true) : Native.same n k.native = true ↔ x.MetBy k := by
  -- the position of a loop is wrapped as a mapping, which no key is equal to
  rcases native_of_wrap_key isKey wrapped with rfl | ⟨⟨p, rfl⟩, entries, rfl⟩
  · by_cases atom : x.native.hasMembers = false
    · have compared : x.equal k = .ok (Native.equalAtom x.native k) := by
        rw [Value.equal, Native.equal_of_not_hasMembers atom, wrap_native, wrap_native]
        rfl
      have seen : ¬ x.Overlooks k := by
        rintro ⟨⟩
        · cases atom
        · cases atom
      rw [MetBy, and_iff_left seen, compared, Except.ok.injEq, same_atom atom key]
    · cases x with
      | range r => exact same_range key
      | bytes bs => exact same_bytes key
      | sequence | mapping => cases isKey
      | number m => cases m <;> cases atom rfl
      | _ => cases atom rfl
  · have apart : Native.same (.loop p) k.native = false := by
      cases k with
      | number m => cases m <;> rfl
      | _ => rfl
    rw [apart, MetBy, equal_mapping_key key]
    refine iff_of_false Bool.false_ne_true ?_
    intro found
    rcases found with ⟨equal, -⟩ | told
    · cases equal
    · cases told

/-- Each datum that is wrapped has its value among the results, and each
    result is the value of one of them. -/
theorem wrapAll_eq_ok {ns : List Native} {xs : List Value} (wrapped : wrapAll ns = .ok xs) :
    (∀ n ∈ ns, ∃ x ∈ xs, n.wrap = .ok x) ∧ ∀ x ∈ xs, ∃ n ∈ ns, n.wrap = .ok x := by
  induction wrapAll_eq_ok_iff.1 wrapped with
  | nil => exact ⟨List.forall_mem_nil _, List.forall_mem_nil _⟩
  | @cons n x ns xs first later ih =>
    obtain ⟨into, back⟩ := ih (wrapAll_eq_ok_iff.2 later)
    rw [List.forall_mem_cons, List.forall_mem_cons]
    refine ⟨⟨⟨x, List.mem_cons_self, first⟩, fun m hm => ?_⟩,
      ⟨n, List.mem_cons_self, first⟩, fun y hy => ?_⟩
    · obtain ⟨y, hy, made⟩ := into m hm
      exact ⟨y, List.mem_cons_of_mem _ hy, made⟩
    · obtain ⟨m, hm, made⟩ := back y hy
      exact ⟨m, List.mem_cons_of_mem _ hm, made⟩

/-! ## Section 4: Looking up -/

variable {entries : List (Native × Native)} {xs : List Value}

/-- Something is stored under what can be a key exactly if the iteration over
    the mapping gives a value that is found as it. -/
theorem isSome_lookup?_iff (dictionary : Native.IsDictionary entries)
    (listed : (mapping entries).iterate = .ok xs) (key : k.native.isKey = true) :
    (Native.lookup? entries k.native).isSome = true ↔ ∃ x ∈ xs, x.FoundAs k := by
  obtain ⟨into, back⟩ := wrapAll_eq_ok listed
  rw [Native.isSome_lookup?]
  constructor
  · rintro ⟨e, he, same⟩
    obtain ⟨x, hx, wrapped⟩ := into e.1 (List.mem_map_of_mem he)
    exact ⟨x, hx, key, (same_iff_of_wrap (dictionary.1 e he) wrapped key).1 same⟩
  · rintro ⟨x, hx, -, found⟩
    obtain ⟨n, hn, wrapped⟩ := back x hx
    obtain ⟨e, he, rfl⟩ := List.mem_map.1 hn
    exact ⟨e, he, (same_iff_of_wrap (dictionary.1 e he) wrapped key).2 found⟩

/-- A mapping contains what one of the values of its iteration is found as,
    and the index gives what is stored with that key.  What is found as none
    of them is not contained, and the index of it is nil.  Values that can
    be keys, and for which no key is taken or overlooked, are found by
    equality alone. -/
theorem mapping_lookup (dictionary : Native.IsDictionary entries)
    (listed : (mapping entries).iterate = .ok xs) (k : Value) :
    (∃ found, (mapping entries).contains k = .ok found ∧
      (found = true ↔ ∃ x ∈ xs, x.FoundAs k)) ∧
    (∀ e ∈ entries, ∀ x, e.1.wrap = .ok x → x.FoundAs k →
      (mapping entries).index k = e.2.wrap) ∧
    ((∀ x ∈ xs, ¬ x.FoundAs k) → (mapping entries).index k = .ok .nil) ∧
    (k.native.isKey = true → (∀ x ∈ xs, ¬ x.TakenFor k) → (∀ x ∈ xs, ¬ x.Overlooks k) →
      ∀ x ∈ xs, (x.FoundAs k ↔ x.equal k = .ok true)) := by
  refine ⟨⟨_, rfl, ?_⟩, fun e he x wrapped found => ?_, fun none => ?_,
    fun key apart seen x hx => ?_⟩
  · by_cases key : k.native.isKey = true
    · rw [key, Bool.true_and]
      exact isSome_lookup?_iff dictionary listed key
    · rw [Bool.not_eq_true] at key
      simp [key, FoundAs]
  · have here := (same_iff_of_wrap (dictionary.1 e he) wrapped found.1).2 found.2
    rw [index, if_pos found.1, dictionary.lookup?_eq found.1 he here, wrapMember]
  · rw [index]
    split
    · rename_i key
      have absent : ¬ (Native.lookup? entries k.native).isSome = true := by
        rw [isSome_lookup?_iff dictionary listed key]
        rintro ⟨x, hx, found⟩
        exact none x hx found
      rw [Option.not_isSome_iff_eq_none.1 absent, wrapMember]
    · rfl
  · rw [FoundAs, MetBy, and_iff_right key, or_iff_left (apart x hx), and_iff_left (seen x hx)]

/-- A dictionary with a number, a text and a range as keys. -/
def signs : List (Native × Native) :=
  [(.int 1, .text "one"), (.text "1", .text "digit"), (.range (.between 1 2), .text "pair")]

/-- The range is found by its members, and the list of these members is
    not. -/
theorem signs_lookup :
    Native.IsDictionary signs ∧
    (mapping signs).iterate =
      .ok [.number (.int 1), .string "1", .range (.between 1 2)] ∧
    (mapping signs).index (.range (.between 1 2)) = .ok (.string "pair") ∧
    (mapping signs).index (.sequence [.int 1, .int 2]) = .ok .nil := by
  have dictionary : Native.IsDictionary signs := by
    have text : Native.same (.int 1) (.text "1") = false := rfl
    have range : Native.same (.int 1) (.range (.between 1 2)) = false := rfl
    have apart : Native.same (.text "1") (.range (.between 1 2)) = false := rfl
    exact ⟨by simp [signs, Native.isKey], by simp [signs, text, range, apart]⟩
  have listed : (mapping signs).iterate =
      .ok [.number (.int 1), .string "1", .range (.between 1 2)] := rfl
  refine ⟨dictionary, listed, ?_, ?_⟩
  · refine (mapping_lookup dictionary listed (.range (.between 1 2))).2.1
      (.range (.between 1 2), .text "pair") (by simp [signs]) (.range (.between 1 2)) rfl ?_
    exact ⟨rfl, .inl ⟨equal_ranges.2 ⟨rfl, by decide⟩, nofun⟩⟩
  · refine (mapping_lookup dictionary listed (.sequence [.int 1, .int 2])).2.2.1 fun x _ found => ?_
    cases found.1

/-- A mapping with the key one contains the truth value, although no key is
    equal to it. -/
theorem contains_truth_of_one :
    ¬ ∀ entries, Native.IsDictionary entries → ∀ xs, (mapping entries).iterate = .ok xs →
      ∀ k : Value, (mapping entries).contains k = .ok true ↔ ∃ x ∈ xs, x.equal k = .ok true := by
  intro claimed
  have dictionary : Native.IsDictionary [(.int 1, .text "one")] := by
    simp [Native.IsDictionary, Native.isKey]
  have listed : (mapping [(.int 1, .text "one")]).iterate = .ok [.number (.int 1)] := rfl
  have found : (mapping [(.int 1, .text "one")]).contains (.boolean true) = .ok true := by
    -- as keys, a truth value is the number that it counts as
    have same : Native.same (.int 1) (.bool true) = true := by
      show Number.equal (.int 1) (.int 1) = true
      rw [Number.equal_int]
      rfl
    rw [contains, native, Native.lookup?_cons, if_pos same]
    rfl
  obtain ⟨x, hx, equal⟩ := (claimed _ dictionary _ listed (.boolean true)).1 found
  obtain rfl := List.mem_singleton.1 hx
  have unequal : (number (.int 1)).equal (.boolean true) = .ok false := by
    rw [Value.equal, Native.equal_of_not_hasMembers rfl]
    rfl
  rw [unequal] at equal
  cases equal

end Value

end Stencil
