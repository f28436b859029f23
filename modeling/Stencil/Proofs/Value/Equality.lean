import Mathlib.Data.List.Perm.Subperm
import Stencil.Proofs.Value.Bytes
import Stencil.Proofs.Value.Outcome

/-! # What values mean

    Equality of values descends into members, compares ranges and bytes with
    lists, and looks up the values of one mapping in another one.  On values
    that hold no not-a-number it comes to one thing: each value has a meaning,
    in which numbers are places on one line, ranges and bytes are listed and
    mappings have no order, and two values are equal exactly if they mean the
    same. -/

namespace Stencil

/-! ## Section 1: Keys -/

/-- What a key of a mapping counts as, among keys. -/
inductive Key where
  | nil
  | number (place : Option (Int × Int)) (origin : Option Double.Origin)
  | text (s : String)
  | bytes (bs : List UInt8)
  | range (members : List Int)
  | date (d : Date)
  | loop (p : LoopPosition)
  /-- What is no key. -/
  | none
deriving DecidableEq

/-- Where a number that is none comes from. -/
def Number.origin? : Number → Option Double.Origin
  | .float (.nan origin) => some origin
  | _ => none

theorem Number.same_iff (a b : Number) :
    Number.same a b = true ↔ a.rank? = b.rank? ∧ a.origin? = b.origin? := by
  rcases a with n | (_ | _ | _) <;> rcases b with m | (_ | _ | _) <;>
    simp [same, equal, rank?, origin?]

namespace Native

/-- What a datum counts as among keys: booleans count as numbers. -/
def key : Native → Key
  | .nil => .nil
  | .bool b => .number (Number.int (if b then 1 else 0)).rank? none
  | .int n => .number (Number.int n).rank? none
  | .float d => .number (Number.float d).rank? (Number.float d).origin?
  | .text s => .text s
  | .bytes bs => .bytes bs
  | .range r => .range r.members
  | .date d => .date d
  | .loop p => .loop p
  | .list _ | .dict _ => .none

/-- Two keys are the same exactly if they count as the same. -/
theorem same_iff {a b : Native} (ha : a.isKey = true) (hb : b.isKey = true) :
    same a b = true ↔ a.key = b.key := by
  cases a <;> cases b <;> first
    | (cases ha; done)
    | (cases hb; done)
    | simp [same, key, number?, Number.same_iff, Number.origin?, Progression.same_iff]

end Native

/-! ## Section 2: Plain values -/

mutual

/-- Is the datum built from nil, booleans, numbers, texts, lists, bytes,
    dictionaries, and ranges whose members can be counted?  Not-a-number is
    no number. -/
def Native.Plain : Native → Prop
  | .nil | .bool _ | .int _ | .text _ | .bytes _ => True
  | .float d => ∀ origin, d ≠ .nan origin
  | .list items => Native.PlainItems items
  | .dict entries => Native.PlainEntries entries
  | .range r => r.length ≤ countLimit
  | .date _ | .loop _ => False

/-- Is every item of a list plain? -/
def Native.PlainItems : List Native → Prop
  | [] => True
  | n :: ns => n.Plain ∧ Native.PlainItems ns

/-- Are entries those of a dictionary, with plain values?  The keys are
    keys, and no two of them the same. -/
def Native.PlainEntries : List (Native × Native) → Prop
  | [] => True
  | (k, v) :: rest =>
    (k.isKey = true ∧ ∀ e ∈ rest, Native.same k e.1 = false) ∧ v.Plain ∧ Native.PlainEntries rest

end

/-- Is the value built from nil, booleans, numbers, strings, sequences,
    mappings, and ranges whose members can be counted? -/
def Value.Plain (v : Value) : Prop :=
  v.native.Plain

namespace Native

theorem wrap_of_plain {n : Native} (h : n.Plain) : ∃ v : Value, n.wrap = .ok v ∧ v.native = n := by
  cases n with
  | date | loop => exact h.elim
  | _ => exact ⟨_, rfl, rfl⟩

theorem plainItems_ints (ns : List Int) : PlainItems (ns.map .int) := by
  induction ns with
  | nil => trivial
  | cons n ns ih => exact ⟨trivial, ih⟩

/-- The keys of entries. -/
def keys (entries : List (Native × Native)) : List Key :=
  entries.map (·.1.key)

variable {entries : List (Native × Native)}

theorem isKey_of_mem (h : PlainEntries entries) {e : Native × Native} (he : e ∈ entries) :
    e.1.isKey = true := by
  induction entries with
  | nil => cases he
  | cons head rest ih =>
    rcases List.mem_cons.1 he with rfl | later
    · exact h.1.1
    · exact ih h.2.2 later

theorem nodup_keys (h : PlainEntries entries) : (keys entries).Nodup := by
  induction entries with
  | nil => exact List.nodup_nil
  | cons head rest ih =>
    obtain ⟨⟨isKey, others⟩, -, tail⟩ := h
    refine List.nodup_cons.2 ⟨fun again => ?_, ih tail⟩
    obtain ⟨e, he, same⟩ := List.mem_map.1 again
    have met := (same_iff isKey (isKey_of_mem tail he)).2 same.symm
    rw [others e he] at met
    cases met

end Native

/-! ## Section 3: What values mean -/

/-- What a value means: numbers are places on one line, and a mapping gives
    each key what the value under it means. -/
inductive Meaning where
  | nil
  | boolean (b : Bool)
  | number (place : Option (Int × Int))
  | text (s : String)
  | sequence (items : List Meaning)
  | mapping (at_ : Key → Option Meaning)
  /-- What is no value. -/
  | none

namespace Native

mutual

/-- What a datum means as a value: a range or bytes mean what the list of
    their integers does. -/
def meaning : Native → Meaning
  | .nil => .nil
  | .bool b => .boolean b
  | .int n => .number (Number.int n).rank?
  | .float d => .number (Number.float d).rank?
  | .text s => .text s
  | .list items => .sequence (itemMeanings items)
  | .bytes bs => .sequence ((octets bs).map fun n => .number (Number.int n).rank?)
  | .dict entries => .mapping (entryMeanings entries)
  | .range r => .sequence (r.members.map fun n => .number (Number.int n).rank?)
  | .date _ | .loop _ => .none

/-- What the items of a list mean. -/
def itemMeanings : List Native → List Meaning
  | [] => []
  | n :: ns => n.meaning :: itemMeanings ns

/-- What is stored under a key means. -/
def entryMeanings : List (Native × Native) → Key → Option Meaning
  | [], _ => none
  | (k, v) :: rest, x => if k.key = x then some v.meaning else entryMeanings rest x

end

theorem itemMeanings_ints (ns : List Int) :
    itemMeanings (ns.map .int) = ns.map fun n => .number (Number.int n).rank? := by
  induction ns with
  | nil => rfl
  | cons n ns ih => rw [List.map_cons, List.map_cons, itemMeanings, ih, meaning]

theorem meaning_listed (r : Progression) :
    (Native.list (r.members.map .int)).meaning = (Native.range r).meaning := by
  rw [meaning, meaning, itemMeanings_ints]

theorem meaning_octets (bs : List UInt8) :
    (Native.list ((octets bs).map .int)).meaning = (Native.bytes bs).meaning := by
  rw [meaning, meaning, itemMeanings_ints]

theorem length_itemMeanings (ns : List Native) : (itemMeanings ns).length = ns.length := by
  induction ns with
  | nil => rfl
  | cons n ns ih => rw [itemMeanings, List.length_cons, List.length_cons, ih]

variable {entries as bs : List (Native × Native)}

theorem entryMeanings_eq_none_iff {x : Key} :
    entryMeanings entries x = none ↔ x ∉ keys entries := by
  induction entries with
  | nil => simp [entryMeanings, keys]
  | cons e entries ih =>
    obtain ⟨k, v⟩ := e
    rw [entryMeanings]
    by_cases here : k.key = x
    · simp [keys, here]
    · rw [if_neg here, ih]
      simp [keys, Ne.symm here]

theorem entryMeanings_of_mem (h : PlainEntries entries) {e : Native × Native} (he : e ∈ entries) :
    entryMeanings entries e.1.key = some e.2.meaning := by
  have distinct := nodup_keys h
  induction entries with
  | nil => cases he
  | cons head rest ih =>
    obtain ⟨k, v⟩ := head
    rw [keys, List.map_cons, List.nodup_cons] at distinct
    rw [entryMeanings]
    rcases List.mem_cons.1 he with rfl | later
    · exact if_pos rfl
    · have other : k.key ≠ e.1.key := by
        intro same
        rw [same] at distinct
        exact distinct.1 (List.mem_map_of_mem later)
      rw [if_neg other]
      exact ih h.2.2 later distinct.2

/-- Looking up a key finds what its meaning is stored for. -/
theorem lookup?_plain (h : PlainEntries entries) {k : Native} (isKey : k.isKey = true)
    (present : k.key ∈ keys entries) :
    ∃ w, lookup? entries k = some w ∧ w.Plain ∧ entryMeanings entries k.key = some w.meaning := by
  induction entries with
  | nil => cases present
  | cons head rest ih =>
    obtain ⟨l, w⟩ := head
    obtain ⟨⟨here, -⟩, plain, tail⟩ := h
    rw [entryMeanings, lookup?_cons, ← if_congr (same_iff here isKey) rfl rfl]
    by_cases found : same l k = true
    · rw [if_pos found, if_pos found]
      exact ⟨w, rfl, plain, rfl⟩
    · rw [if_neg found, if_neg found]
      have other : l.key ≠ k.key := mt (same_iff here isKey).2 found
      refine ih tail ?_
      simpa [keys, other.symm] using present

/-- Two dictionaries have the same keys exactly if something is stored under
    the same ones. -/
theorem sameKeys_iff (ha : PlainEntries as) (hb : PlainEntries bs) :
    sameKeys as bs = true ↔ ∀ x, x ∈ keys as ↔ x ∈ keys bs := by
  have length (es : List (Native × Native)) : (keys es).length = es.length := List.length_map _
  have held : sameKeys as bs = true ↔ (keys as).length = (keys bs).length ∧ keys as ⊆ keys bs := by
    rw [sameKeys, Bool.and_eq_true, decide_eq_true_eq, length, length, List.all_eq_true]
    refine and_congr_right fun _ => ?_
    have one {e : Native × Native} (he : e ∈ as) :
        (bs.any fun f => same f.1 e.1) = true ↔ e.1.key ∈ keys bs := by
      rw [List.any_eq_true, keys, List.mem_map]
      refine exists_congr fun f => and_congr_right fun hf => ?_
      exact same_iff (isKey_of_mem hb hf) (isKey_of_mem ha he)
    constructor
    · intro all x hx
      obtain ⟨e, he, rfl⟩ := List.mem_map.1 hx
      exact (one he).1 (all e he)
    · intro all e he
      exact (one he).2 (all (List.mem_map_of_mem he))
  rw [held]
  constructor
  · rintro ⟨long, sub⟩ x
    -- as many keys, all of them among the others, leave none of the others out
    have held := List.Nodup.subperm (nodup_keys ha) sub
    exact (held.perm_of_length_le (Nat.le_of_eq long.symm)).mem_iff
  · intro same
    have perm := (List.perm_ext_iff_of_nodup (nodup_keys ha) (nodup_keys hb)).2 same
    exact ⟨perm.length_eq, perm.subset⟩

/-- Two dictionaries mean the same exactly if they have the same keys, and
    the second stores what the first does. -/
theorem entryMeanings_eq_iff (ha : PlainEntries as) :
    entryMeanings as = entryMeanings bs ↔ (∀ x, x ∈ keys as ↔ x ∈ keys bs) ∧
      ∀ e ∈ as, entryMeanings bs e.1.key = some e.2.meaning := by
  constructor
  · intro same
    constructor
    · intro x
      rw [← not_iff_not, ← entryMeanings_eq_none_iff, ← entryMeanings_eq_none_iff, same]
    · intro e he
      rw [← same, entryMeanings_of_mem ha he]
  · rintro ⟨same, stored⟩
    funext x
    by_cases held : x ∈ keys as
    · obtain ⟨e, he, rfl⟩ := List.mem_map.1 held
      rw [entryMeanings_of_mem ha he, stored e he]
    · rw [entryMeanings_eq_none_iff.2 held, entryMeanings_eq_none_iff.2 (mt (same x).2 held)]

end Native

/-! ## Section 4: Answers -/

/-- Does a question get an answer, the one that the proposition tells? -/
def Answers (x : Except Fault Bool) (p : Prop) : Prop :=
  ∃ answer, x = .ok answer ∧ (answer = true ↔ p)

section

variable {x y : Except Fault Bool} {p q : Prop}

theorem answers_ok {answer : Bool} (h : answer = true ↔ p) : Answers (.ok answer) p :=
  ⟨answer, rfl, h⟩

theorem answers_no (h : ¬ p) : Answers (.ok false) p :=
  answers_ok (by simpa using h)

theorem Answers.congr (h : Answers x p) (same : p ↔ q) : Answers x q := by
  obtain ⟨answer, made, holds⟩ := h
  exact ⟨answer, made, holds.trans same⟩

/-- A second question that is only asked after a yes. -/
theorem Answers.and (h : Answers x p) (later : Answers y q) :
    Answers (x >>= fun answer => if answer = true then y else pure false) (p ∧ q) := by
  obtain ⟨answer, rfl, holds⟩ := h
  cases answer with
  | true => exact later.congr (by simp [holds.1 rfl])
  | false => exact answers_no fun both => nomatch holds.2 both.1

/-- A second question that is only asked if something is known to hold. -/
theorem Answers.of_if [Decidable p] (later : p → Answers y q) (needed : q → p) :
    Answers (if p then y else .ok false) q := by
  by_cases known : p
  · rw [if_pos known]
    exact later known
  · rw [if_neg known]
    exact answers_no (mt needed known)

theorem Answers.eq_true_iff (h : Answers x p) : x = .ok true ↔ p := by
  obtain ⟨answer, rfl, holds⟩ := h
  rw [← holds, Except.ok.injEq]

theorem Answers.eq_false_iff (h : Answers x p) : x = .ok false ↔ ¬ p := by
  obtain ⟨answer, rfl, holds⟩ := h
  rw [← holds, Except.ok.injEq, Bool.not_eq_true]

/-- Two questions with the same answer. -/
theorem Answers.eq (h : Answers x p) (other : Answers y q) (same : p ↔ q) : x = y := by
  obtain ⟨answer, rfl, holds⟩ := h
  obtain ⟨second, rfl, alike⟩ := other
  rw [Except.ok.injEq, Bool.eq_iff_iff, holds, alike, same]

end

/-! ## Section 5: Equality is having the same meaning -/

/-- Two numbers, one of which has a place, are equal exactly if they have the
    same. -/
theorem Number.equal_iff {a b : Number} (h : a.rank? ≠ none) :
    equal a b = true ↔ a.rank? = b.rank? := by
  unfold equal
  cases ha : a.rank? with
  | none => exact absurd ha h
  | some p => cases hb : b.rank? <;> simp

theorem Number.rank?_ne_none {n : Number} (h : n.native.Plain) : n.rank? ≠ none := by
  cases n with
  | int n => exact Option.some_ne_none _
  | float d =>
    cases d with
    | nan origin => exact absurd rfl (h origin)
    | _ => exact Option.some_ne_none _

namespace Native

/-- Is a datum, if plain, equal to the plain data that mean the same, and to
    no other? -/
def EqualByMeaning (a : Native) : Prop :=
  a.Plain → ∀ b : Native, b.Plain → Answers (a.equal b) (a.meaning = b.meaning)

/-- Has the datum members or entries of its own? -/
def hasMembers : Native → Bool
  | .list _ | .bytes _ | .dict _ | .range _ | .loop _ => true
  | _ => false

variable {a : Native}

theorem equal_of_not_hasMembers (h : a.hasMembers = false) (b : Native) :
    equal a b = a.wrap >>= fun _ => b.wrap >>= fun v => pure (equalAtom a v) := by
  cases a <;> first
    | (cases h; done)
    | (rw [equal] <;> (intros; contradiction))

@[simp] theorem meaning_number (n : Number) : n.native.meaning = .number n.rank? := by
  cases n <;> rfl

theorem equalAtom_number {n : Number} (h : n.native.Plain) (v : Value) :
    equalAtom n.native v = true ↔ n.native.meaning = v.native.meaning := by
  cases v with
  | number m =>
    have compared : equalAtom n.native (.number m) = Number.equal n m := by cases n <;> rfl
    simp [compared, Number.equal_iff (Number.rank?_ne_none h), Value.native]
  | _ => cases n <;> simp [Number.native, equalAtom, Value.native, meaning]

theorem equalAtom_iff (h : a.hasMembers = false) (plain : a.Plain) (v : Value) :
    equalAtom a v = true ↔ a.meaning = v.native.meaning := by
  cases a with
  | int n => exact equalAtom_number (n := .int n) plain v
  | float d => exact equalAtom_number (n := .float d) plain v
  | nil | bool | text => cases v <;> simp [equalAtom, Value.native, meaning]
  | date => exact plain.elim
  | list | bytes | dict | range | loop => cases h

/-- Data without members are compared by what they mean. -/
theorem equalByMeaning_atom (h : a.hasMembers = false) : a.EqualByMeaning := by
  intro plain b other
  obtain ⟨w, here, -⟩ := wrap_of_plain plain
  obtain ⟨v, there, rfl⟩ := wrap_of_plain other
  rw [equal_of_not_hasMembers h, here, there]
  exact answers_ok (equalAtom_iff h plain v)

section

variable {items others : List Native} (each : ∀ a ∈ items, EqualByMeaning a)
include each

/-- Lists of one length are compared by what their items mean. -/
theorem equalItems_plain (plain : PlainItems items) (other : PlainItems others)
    (long : items.length = others.length) :
    Answers (equalItems items others) (itemMeanings items = itemMeanings others) := by
  induction items generalizing others with
  | nil =>
    obtain rfl : others = [] := List.length_eq_zero_iff.1 long.symm
    rw [equalItems]
    · exact answers_ok (by simp)
    · intros
      contradiction
  | cons a items ih =>
    cases others with
    | nil => cases long
    | cons b others =>
      rw [List.forall_mem_cons] at each
      rw [equalItems, itemMeanings, itemMeanings, List.cons.injEq]
      have front := each.1 plain.1 b other.1
      exact front.and (ih each.2 plain.2 other.2 (Nat.succ.inj long))

theorem equal_lists (plain : PlainItems items) (other : PlainItems others) :
    Answers (equal (.list items) (.list others))
      ((Native.list items).meaning = (Native.list others).meaning) := by
  rw [equal, meaning, meaning, Meaning.sequence.injEq]
  refine Answers.of_if (equalItems_plain each plain other) fun same => ?_
  rw [← length_itemMeanings, same, length_itemMeanings]

/-- Lists are compared by what they mean if their items are. -/
theorem equalByMeaning_list : (Native.list items).EqualByMeaning := by
  intro plain b other
  cases b with
  | list others => exact equal_lists each plain other
  | range r =>
    have listed : equal (.list items) (.range r) =
        equal (.list items) (.list (r.members.map .int)) :=
      Progression.equal_right other (.sequence items)
    rw [listed, ← meaning_listed]
    exact equal_lists each plain (plainItems_ints _)
  | bytes bs =>
    have listed : equal (.list items) (.bytes bs) =
        equal (.list items) (.list ((octets bs).map .int)) :=
      Value.bytes_equal_right bs (.sequence items)
    rw [listed, ← meaning_octets]
    exact equal_lists each plain (plainItems_ints _)
  | date | loop => exact other.elim
  | _ =>
    rw [equal]
    exact answers_no (by simp [meaning])

end

/-- Lists of integers are compared by what they mean. -/
theorem equalByMeaning_ints (ns : List Int) : (Native.list (ns.map .int)).EqualByMeaning := by
  refine equalByMeaning_list fun a ha => ?_
  obtain ⟨n, -, rfl⟩ := List.mem_map.1 ha
  exact equalByMeaning_atom rfl

/-- Ranges are compared as their lists are. -/
theorem equalByMeaning_range (r : Progression) : (Native.range r).EqualByMeaning := by
  intro plain b other
  obtain ⟨v, -, rfl⟩ := wrap_of_plain other
  -- a list of integers is compared without another range in the way
  have listed : equal (.range r) v.native = equal (.list (r.members.map .int)) v.native :=
    Progression.equal_left plain v
  rw [listed, ← meaning_listed]
  exact equalByMeaning_ints _ (plainItems_ints _) _ other

/-- Bytes are compared as their lists are. -/
theorem equalByMeaning_bytes (bs : List UInt8) : (Native.bytes bs).EqualByMeaning := by
  intro _ b other
  obtain ⟨v, -, rfl⟩ := wrap_of_plain other
  have listed : equal (.bytes bs) v.native = equal (.list ((octets bs).map .int)) v.native :=
    Value.bytes_equal_left bs v
  rw [listed, ← meaning_octets]
  exact equalByMeaning_ints _ (plainItems_ints _) _ other

section

variable {entries others : List (Native × Native)} (each : ∀ e ∈ entries, EqualByMeaning e.2)
include each

/-- Entries are compared by what is stored under their keys. -/
theorem equalEntries_plain (plain : PlainEntries entries) (other : PlainEntries others)
    (present : ∀ e ∈ entries, e.1.key ∈ keys others) :
    Answers (equalEntries entries others)
      (∀ e ∈ entries, entryMeanings others e.1.key = some e.2.meaning) := by
  induction entries with
  | nil =>
    rw [equalEntries]
    exact answers_ok (by simp)
  | cons e entries ih =>
    obtain ⟨k, v⟩ := e
    obtain ⟨⟨isKey, -⟩, value, rest⟩ := plain
    rw [List.forall_mem_cons] at each present
    obtain ⟨w, found, stored, means⟩ := lookup?_plain other isKey present.1
    have front : Answers (equal v w) (entryMeanings others k.key = some v.meaning) := by
      refine (each.1 value w stored).congr ?_
      rw [means, Option.some.injEq, eq_comm]
    rw [equalEntries, found, List.forall_mem_cons]
    exact front.and (ih each.2 rest present.2)

/-- Dictionaries are compared by what they mean if what they store is. -/
theorem equalByMeaning_dict : (Native.dict entries).EqualByMeaning := by
  intro plain b other
  cases b with
  | dict others =>
    rw [equal, meaning, meaning, Meaning.mapping.injEq, entryMeanings_eq_iff plain]
    refine Answers.of_if (fun same => ?_) fun both => (sameKeys_iff plain other).2 both.1
    have shared := (sameKeys_iff plain other).1 same
    have present : ∀ e ∈ entries, e.1.key ∈ keys others := fun e he =>
      (shared _).1 (List.mem_map_of_mem he)
    exact (equalEntries_plain each plain other present).congr (by simp [shared])
  | date | loop => exact other.elim
  | _ =>
    rw [equal]
    exact answers_no (by simp [meaning])

end

mutual

/-- Plain data are compared by what they mean. -/
theorem equalByMeaning : (a : Native) → a.EqualByMeaning
  | .list items => equalByMeaning_list (equalByMeaning_items items)
  | .bytes bs => equalByMeaning_bytes bs
  | .dict entries => equalByMeaning_dict (equalByMeaning_entries entries)
  | .range r => equalByMeaning_range r
  | .nil | .bool _ | .int _ | .float _ | .text _ | .date _ => equalByMeaning_atom rfl
  | .loop _ => fun plain => plain.elim

theorem equalByMeaning_items : (items : List Native) → ∀ a ∈ items, EqualByMeaning a
  | [] => by simp
  | a :: items => List.forall_mem_cons.2 ⟨equalByMeaning a, equalByMeaning_items items⟩

theorem equalByMeaning_entries :
    (entries : List (Native × Native)) → ∀ e ∈ entries, EqualByMeaning e.2
  | [] => by simp
  | (_, v) :: entries => List.forall_mem_cons.2 ⟨equalByMeaning v, equalByMeaning_entries entries⟩

end

end Native

theorem Value.equal_answers {a b : Value} (ha : a.Plain) (hb : b.Plain) :
    Answers (a.equal b) (a.native.meaning = b.native.meaning) :=
  Native.equalByMeaning a.native ha b.native hb

end Stencil
