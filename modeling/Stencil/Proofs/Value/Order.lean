import Mathlib.Algebra.Order.Field.Rat
import Mathlib.Algebra.Order.Ring.Cast
import Mathlib.Data.Prod.Lex
import Mathlib.Data.String.Basic
import Stencil.Proofs.Value.Equality
import Stencil.Statement.Eval

/-! # Equality and order of values

    Equality of plain values is having the same meaning, and so an
    equivalence.  The order of numbers and of strings depends on nothing but
    the meaning either, so equal values are less than the same ones, and of
    two numbers or two strings one is less unless they are equal. -/

namespace Stencil

/-! ## Section 1: Order -/

/-- Does one meaning come before another one?  Only places of numbers, and
    texts, have an order. -/
def Meaning.Before : Meaning → Meaning → Prop
  | .number (some p), .number (some q) => toLex p < toLex q
  | .text s, .text t => s < t
  | _, _ => False

namespace Meaning

theorem not_before_self (m : Meaning) : ¬ m.Before m := by
  unfold Before
  split
  next same =>
    cases same
    exact lt_irrefl _
  next same =>
    cases same
    exact lt_irrefl _
  next => exact not_false

theorem Before.trans {l m n : Meaning} (h : l.Before m) (later : m.Before n) : l.Before n := by
  unfold Before at h later ⊢
  -- only meanings of one kind come before each other
  split at h
  next =>
    split at later
    next same =>
      cases same
      exact lt_trans h later
    next same => cases same
    next => exact later.elim
  next =>
    split at later
    next same => cases same
    next same =>
      cases same
      exact lt_trans h later
    next => exact later.elim
  next => exact h.elim

end Meaning

theorem Number.less_iff (a b : Number) :
    less a b = true ↔ (Meaning.number a.rank?).Before (.number b.rank?) := by
  unfold less
  cases a.rank? with
  | none => simp [Meaning.Before]
  | some p => cases b.rank? <;> simp [Meaning.Before, Prod.Lex.lt_iff]

namespace Value

/-- The order of values is the order of what they mean. -/
theorem less_iff (a b : Value) : a.less b = true ↔ a.native.meaning.Before b.native.meaning := by
  cases a with
  | number m =>
    cases b with
    | number n => simpa [less, native] using Number.less_iff m n
    | _ => simp [less, native, Native.meaning, Meaning.Before]
  | _ => cases b <;> simp [less, native, Native.meaning, Meaning.Before]

/-- Are the values two numbers, or two strings? -/
def OfOneOrder : Value → Value → Prop
  | .number _, .number _ => True
  | .string _, .string _ => True
  | _, _ => False

variable {a b : Value}

/-- Of two meanings with a common order, one comes first unless they are the
    same. -/
theorem before_trichotomy (ha : a.Plain) (hb : b.Plain) (common : a.OfOneOrder b) :
    a.native.meaning.Before b.native.meaning ∨ a.native.meaning = b.native.meaning ∨
      b.native.meaning.Before a.native.meaning := by
  unfold OfOneOrder at common
  split at common
  next m n =>
    obtain ⟨p, hp⟩ := Option.ne_none_iff_exists'.1 (Number.rank?_ne_none ha)
    obtain ⟨q, hq⟩ := Option.ne_none_iff_exists'.1 (Number.rank?_ne_none hb)
    have places := lt_trichotomy (toLex p) (toLex q)
    simpa [native, hp, hq, Meaning.Before] using places
  next s t => simpa [native, Native.meaning, Meaning.Before] using lt_trichotomy s t
  next => exact common.elim

theorem not_before_of_apart (apart : ¬ a.OfOneOrder b) : a.less b = false := by
  cases a <;> cases b <;> first
    | rfl
    | exact absurd trivial apart

end Value

/-- The exact value of a finite number. -/
def Number.ratio? : Number → Option Rat
  | .int n => some n
  | .float (.finite negative units) =>
    some (Double.signedUnits negative units / Double.unitsPerOne)
  | .float _ => none

/-- A finite number stands as many units from zero as its value says. -/
theorem Number.exists_units {n : Number} {r : Rat} (h : n.ratio? = some r) :
    ∃ units : Int, n.rank? = some (0, units) ∧ r = units / Double.unitsPerOne := by
  have one : (Double.unitsPerOne : Rat) ≠ 0 := by
    exact_mod_cast Double.unitsPerOne_pos.ne'
  unfold ratio? at h
  split at h
  next n =>
    cases h
    refine ⟨n * Double.unitsPerOne, rfl, ?_⟩
    rw [Int.cast_mul, Int.cast_natCast, mul_div_cancel_right₀ _ one]
  next negative units =>
    cases h
    exact ⟨_, rfl, rfl⟩
  next => cases h

/-- Finite numbers are compared by their exact values. -/
theorem Number.compared_exactly {m n : Number} {p q : Rat} (hm : m.ratio? = some p)
    (hn : n.ratio? = some q) : (less m n = true ↔ p < q) ∧ (equal m n = true ↔ p = q) := by
  have one : (0 : Rat) < Double.unitsPerOne := by exact_mod_cast Double.unitsPerOne_pos
  obtain ⟨j, hj, rfl⟩ := exists_units hm
  obtain ⟨k, hk, rfl⟩ := exists_units hn
  unfold less equal
  rw [hj, hk, div_lt_div_iff_of_pos_right one, div_left_inj' one.ne']
  simp

namespace Value

/-! ## Section 2: Equality and order together -/

/-- Is one of two values less than the other one, or are they equal, and never
    two of this at once? -/
def ExactlyOne (a b : Value) : Prop :=
  (a.less b = true ∧ a.equal b = .ok false ∧ b.less a = false) ∨
    (a.less b = false ∧ a.equal b = .ok true ∧ b.less a = false) ∨
    (a.less b = false ∧ a.equal b = .ok false ∧ b.less a = true)

/-- Do equality and order keep their laws on three values? -/
structure Lawful (a b c : Value) : Prop where
  /-- Every two values can be compared. -/
  answered : ∃ answer, a.equal b = .ok answer
  reflexive : a.equal a = .ok true
  symmetric : a.equal b = b.equal a
  transitive : a.equal b = .ok true → b.equal c = .ok true → a.equal c = .ok true
  irreflexive : a.less a = false
  less_transitive : a.less b = true → b.less c = true → a.less c = true
  /-- Equal values are less than the same ones. -/
  less_left : a.equal b = .ok true → a.less c = b.less c
  /-- The same ones are less than equal values. -/
  less_right : a.equal b = .ok true → c.less a = c.less b
  ordered : a.OfOneOrder b → a.ExactlyOne b
  /-- Finite numbers are compared by their exact values. -/
  exact : ∀ m n p q, a = .number m → b = .number n → m.ratio? = some p → n.ratio? = some q →
    (a.less b = true ↔ p < q) ∧ (a.equal b = .ok true ↔ p = q)
  apart : ¬ a.OfOneOrder b → a.less b = false
  /-- A comparison may be read from either side. -/
  mirrored : ∀ (filters : Registry) (names : Names) (left right : Expr),
    left.eval filters names = .ok a → right.eval filters names = .ok b →
      ∃ answer, (Expr.compare .ge left right).eval filters names = .ok (.boolean answer) ∧
        (Expr.compare .le right left).eval filters names = .ok (.boolean answer)

variable {a b c : Value}

theorem exactlyOne (ha : a.Plain) (hb : b.Plain) (common : a.OfOneOrder b) : a.ExactlyOne b := by
  have same := equal_answers ha hb
  unfold ExactlyOne
  rw [same.eq_true_iff, same.eq_false_iff, ← Bool.not_eq_true, ← Bool.not_eq_true, less_iff,
    less_iff]
  have self := Meaning.not_before_self
  rcases before_trichotomy ha hb common with before | equal | after
  · refine .inl ⟨before, fun equal => self _ (equal ▸ before), fun after => ?_⟩
    exact self _ (before.trans after)
  · rw [equal]
    exact .inr (.inl ⟨self _, rfl, self _⟩)
  · refine .inr (.inr ⟨fun before => ?_, fun equal => self _ (equal ▸ after), after⟩)
    exact self _ (before.trans after)

theorem ge_eq_le (ha : a.Plain) (hb : b.Plain) :
    ∃ answer, Relation.ge.holds a b = .ok answer ∧ Relation.le.holds b a = .ok answer := by
  have forward := equal_answers ha hb
  have sides : a.equal b = b.equal a := forward.eq (equal_answers hb ha) eq_comm
  obtain ⟨answer, made, -⟩ := forward
  rw [Relation.holds, Relation.holds, ← sides, made]
  cases b.less a with
  | true => exact ⟨true, rfl, rfl⟩
  | false => exact ⟨answer, rfl, rfl⟩

/-- Equality of plain values is an equivalence, and the order of values is
    compatible with it. -/
theorem equality_and_order (ha : a.Plain) (hb : b.Plain) (hc : c.Plain) : a.Lawful b c where
  answered := by
    obtain ⟨answer, made, -⟩ := equal_answers ha hb
    exact ⟨answer, made⟩
  reflexive := (equal_answers ha ha).eq_true_iff.2 rfl
  symmetric := (equal_answers ha hb).eq (equal_answers hb ha) eq_comm
  transitive := by
    rw [(equal_answers ha hb).eq_true_iff, (equal_answers hb hc).eq_true_iff,
      (equal_answers ha hc).eq_true_iff]
    exact Eq.trans
  irreflexive := by
    rw [← Bool.not_eq_true, less_iff]
    exact Meaning.not_before_self _
  less_transitive := by
    rw [less_iff, less_iff, less_iff]
    exact Meaning.Before.trans
  less_left := by
    rw [(equal_answers ha hb).eq_true_iff, Bool.eq_iff_iff, less_iff, less_iff]
    intro same
    rw [same]
  less_right := by
    rw [(equal_answers ha hb).eq_true_iff, Bool.eq_iff_iff, less_iff, less_iff]
    intro same
    rw [same]
  ordered := exactlyOne ha hb
  exact := by
    rintro m n p q rfl rfl hp hq
    obtain ⟨before, same⟩ := Number.compared_exactly hp hq
    refine ⟨before, ?_⟩
    rw [(equal_answers ha hb).eq_true_iff, ← same, Number.equal_iff (Number.rank?_ne_none ha)]
    simp [native]
  apart := not_before_of_apart
  mirrored := by
    intro filters names left right evalLeft evalRight
    obtain ⟨answer, forward, backward⟩ := ge_eq_le ha hb
    refine ⟨answer, ?_, ?_⟩
    · rw [Expr.eval, evalLeft, evalRight]
      show (Relation.ge.holds a b >>= fun holds => pure (boolean holds)) = _
      rw [forward]
      rfl
    · rw [Expr.eval, evalLeft, evalRight]
      show (Relation.le.holds b a >>= fun holds => pure (boolean holds)) = _
      rw [backward]
      rfl

/-- A mapping with a number, a range, and a boolean as a key. -/
def mixedEntries : List (Native × Native) :=
  [(.text "x", .int 1), (.bool true, .range (.between 0 1))]

/-- The mapping with the same entries in the opposite order, in which the key
    is a number and the range is listed. -/
def listedEntries : List (Native × Native) :=
  [(.int 1, .list [.int 0, .int 1]), (.text "x", .int 1)]

theorem mixedEntries_lawful : (mapping mixedEntries).Plain ∧ (mapping listedEntries).Plain ∧
    (string "x").Plain ∧ (mapping mixedEntries).Lawful (mapping listedEntries) (string "x") := by
  have counted : (Progression.between 0 1).length ≤ countLimit := by decide
  have mixed : (mapping mixedEntries).Plain :=
    ⟨⟨rfl, by decide⟩, trivial, ⟨rfl, by simp⟩, counted, trivial⟩
  have listed : (mapping listedEntries).Plain :=
    ⟨⟨rfl, by decide⟩, ⟨trivial, trivial, trivial⟩, ⟨rfl, by simp⟩, trivial, trivial⟩
  exact ⟨mixed, listed, trivial, equality_and_order mixed listed trivial⟩

end Value

end Stencil
