import Mathlib.Order.WithBot
import Stencil.Proofs.Filter.Invoke
import Stencil.Proofs.Sorting.Mixture
import Stencil.Proofs.Sorting.Order
import Stencil.Proofs.Value.Order

/-! # The filter that sorts

    Numbers, and with them the booleans as zero and one, are sorted by
    their exact values, and texts by code points.  Numbers and texts have
    no common order, and a list that holds both is never sorted, wherever
    the odd item stands. -/

namespace Stencil

open Sorting

/-! ## Section 1: Exact values -/

/-- The exact value of a number, between the infinities.  Not-a-number has
    none, and is put below all. -/
def Number.place : Number → WithBot (WithTop Rat)
  | .float (.infinite negative) => if negative then ⊥ else ⊤
  | n => n.ratio?.elim ⊥ fun r => ((r : WithTop Rat) : WithBot (WithTop Rat))

namespace Number

variable {m n : Number} {p : Rat}

theorem place_of_ratio (h : m.ratio? = some p) :
    m.place = ((p : WithTop Rat) : WithBot (WithTop Rat)) := by
  cases m with
  | int k =>
    rw [place, h]
    · rfl
    · nofun
  | float d =>
    cases d with
    | finite negative units =>
      rw [place, h]
      · rfl
      · nofun
    | infinite negative => cases h
    | nan origin => cases h

/-- Every number but not-a-number is finite, or infinite. -/
theorem exists_ratio_or_infinite (number : ∀ origin, m ≠ .float (.nan origin)) :
    (∃ p, m.ratio? = some p) ∨ ∃ negative, m = .float (.infinite negative) := by
  cases m with
  | int k => exact .inl ⟨k, rfl⟩
  | float d =>
    cases d with
    | finite negative units => exact .inl ⟨_, rfl⟩
    | infinite negative => exact .inr ⟨negative, rfl⟩
    | nan origin => exact absurd rfl (number origin)

/-- Numbers are compared by their exact values. -/
theorem less_eq_place (hm : ∀ origin, m ≠ .float (.nan origin))
    (hn : ∀ origin, n ≠ .float (.nan origin)) : less m n = decide (m.place < n.place) := by
  obtain ⟨p, hp⟩ | ⟨s, rfl⟩ := exists_ratio_or_infinite hm <;>
    obtain ⟨q, hq⟩ | ⟨t, rfl⟩ := exists_ratio_or_infinite hn
  -- two finite numbers have exact values, and an infinity is beyond all of them
  · rw [place_of_ratio hp, place_of_ratio hq, Bool.eq_iff_iff, (compared_exactly hp hq).1]
    simp
  · obtain ⟨units, rank, -⟩ := exists_units hp
    rw [place_of_ratio hp, less, rank]
    cases t with
    | true => simp [rank?, place]
    | false => exact (decide_eq_true (WithBot.coe_lt_coe.2 (WithTop.coe_lt_top p))).symm
  · obtain ⟨units, rank, -⟩ := exists_units hq
    rw [place_of_ratio hq, less, rank]
    cases s <;> simp [rank?, place]
  · cases s <;> cases t <;> simp [less, rank?, place]

end Number

/-! ## Section 2: Numbers and texts -/

namespace Native

/-- Is the datum a number, or a boolean?  Not-a-number is none. -/
def IsNumeric (n : Native) : Prop :=
  ∃ m, n.number? = some m ∧ ∀ origin, m ≠ .float (.nan origin)

/-- The exact value of a number or a boolean. -/
def place (n : Native) : WithBot (WithTop Rat) :=
  n.number?.elim ⊥ Number.place

/-- Is the datum a text? -/
def IsText (n : Native) : Prop :=
  ∃ s, n = .text s

/-- The content of a text. -/
def content : Native → String
  | .text s => s
  | _ => ""

theorem before_numbers {a b : Native} {m n : Number} (ha : a.number? = some m)
    (hb : b.number? = some n) : before a b = .ok (Number.less m n) := by
  cases a with
  | bool | int | float =>
    cases ha
    cases b with
    | bool | int | float =>
      cases hb
      rfl
    | _ => cases hb
  | _ => cases ha

theorem compares_numbers : Compares before place IsNumeric := by
  rintro a b ⟨m, ha, hm⟩ ⟨n, hb, hn⟩
  rw [before_numbers ha hb, Number.less_eq_place hm hn, place, place, ha, hb]
  rfl

theorem compares_texts : Compares before content IsText := by
  rintro _ _ ⟨s, rfl⟩ ⟨t, rfl⟩
  show Except.ok (decide (s < t)) = _
  congr

/-- Is the datum a text, and nothing else? -/
def isText : Native → Bool
  | .text _ => true
  | _ => false

/-- A text is compared with nothing but a text. -/
theorem before_meets_isText (a b : Native) :
    Meets (fun _ => a.isText = b.isText) (fun _ => True) (before a b) := by
  cases a with
  | text s =>
    cases b with
    | text t => exact .ok rfl
    | _ => exact .error trivial
  | _ =>
    cases b with
    | text t => exact .error trivial
    | _ => exact (meets_true _).mono (fun _ _ => rfl) fun _ _ => trivial

theorem isText_of_number {n : Native} {m : Number} (h : n.number? = some m) :
    n.isText = false := by
  cases n with
  | text s => cases h
  | _ => rfl

theorem IsText.isText {n : Native} (h : n.IsText) : n.isText = true := by
  obtain ⟨s, rfl⟩ := h
  rfl

/-- Numbers and texts together are not sorted, wherever they stand. -/
theorem sort_mixed {ns : List Native} (number : ∃ n ∈ ns, ∃ m, n.number? = some m)
    (text : ∃ n ∈ ns, n.IsText) : ∃ cause, Native.sort ns = .error cause := by
  obtain ⟨a, ha, m, counts⟩ := number
  obtain ⟨b, hb, reads⟩ := text
  cases sorted : Native.sort ns with
  | error cause => exact ⟨cause, rfl⟩
  | ok out =>
    -- a sorted list would be of texts only, or hold none
    have same := same_of_sort before_meets_isText sorted a ha b hb
    rw [isText_of_number counts, reads.isText] at same
    cases same

end Native

/-! ## Section 3: The filter -/

/-- Does the filter make a list of a receiver with these items: the items in
    ascending order, those with equal keys as they have been, and is the
    list left as it is when it is sorted once more? -/
structure Registry.SortsTo {κ : Type} [LinearOrder κ] (r : Registry) (key : Native → κ)
    (v : Value) (ns out : List Native) : Prop where
  sorted : r.invoke "sort" v [] = .ok (.sequence out)
  perm : out.Perm ns
  ordered : Sorts key ns out
  again : r.invoke "sort" (.sequence out) [] = .ok (.sequence out)

namespace Registry

section

variable {strict : Bool} {site : Double.Site} {v : Value} {ns out : List Native}

theorem invoke_sort (found : Filter.items v.native = .ok ns) :
    (standardAt strict site).invoke "sort" v [] =
      conclude "sort" site ((Native.sort ns).map Native.list |>.mapError .operand) := by
  show conclude "sort" site ((Filter.sort v.native).mapError .operand) = _
  rw [Filter.sort, found]
  rfl

theorem invoke_sort_of_ok (found : Filter.items v.native = .ok ns)
    (sorted : Native.sort ns = .ok out) :
    (standardAt strict site).invoke "sort" v [] = .ok (.sequence out) := by
  rw [invoke_sort found, sorted]
  rfl

theorem exists_sortsTo {κ : Type} [LinearOrder κ] {key : Native → κ} {D : Native → Prop}
    (compares : Compares Native.before key D) (found : Filter.items v.native = .ok ns)
    (valid : ∀ n ∈ ns, D n) : ∃ out, (standardAt strict site).SortsTo key v ns out := by
  obtain ⟨out, sorted, ordered⟩ := sort_sorts compares valid
  have valid' : ∀ n ∈ out, D n := fun n hn => valid n (ordered.keeps.mem_iff.1 hn)
  obtain ⟨out', sorted', ordered'⟩ := sort_sorts compares valid'
  obtain rfl := ordered'.eq_of_ascends ordered.ascends
  exact ⟨out', {
    sorted := invoke_sort_of_ok found sorted
    perm := ordered.keeps.perm
    ordered
    again := invoke_sort_of_ok rfl sorted' }⟩

theorem invoke_sort_mixed (found : Filter.items v.native = .ok ns)
    (number : ∃ n ∈ ns, ∃ m, n.number? = some m) (text : ∃ n ∈ ns, n.IsText) :
    ∃ cause, (standardAt strict site).invoke "sort" v [] =
      .error (.evaluation (.filterFailed "sort" cause)) := by
  obtain ⟨cause, unsorted⟩ := Native.sort_mixed number text
  have shown : cause.IsShown := (sort_meets Filter.before_meets ns).of_error unsorted
  refine ⟨cause, ?_⟩
  rw [invoke_sort found, unsorted]
  exact conclude_shown shown "sort" site

end

/-- The filter sorts numbers and booleans by their exact values, and texts by
    their content, stably and once for all.  A list with a number and a text
    is an evaluation error, whatever else it holds. -/
theorem sort_filter (strict : Bool) (site : Double.Site) (v : Value) (ns : List Native)
    (found : Filter.items v.native = .ok ns) :
    ((∀ n ∈ ns, n.IsNumeric) → ∃ out, (standardAt strict site).SortsTo Native.place v ns out) ∧
    ((∀ n ∈ ns, n.IsText) → ∃ out, (standardAt strict site).SortsTo Native.content v ns out) ∧
    ((∃ n ∈ ns, ∃ m, n.number? = some m) → (∃ n ∈ ns, n.IsText) →
      ∃ cause, (standardAt strict site).invoke "sort" v [] =
        .error (.evaluation (.filterFailed "sort" cause))) :=
  ⟨exists_sortsTo Native.compares_numbers found, exists_sortsTo Native.compares_texts found,
    invoke_sort_mixed found⟩

/-- True and one, which are equal, with infinities around. -/
def equalOnes : List Native :=
  [.float (.infinite false), .bool true, .int 1, .float (.infinite true)]

/-- Texts, one of them twice. -/
def twoBees : List Native :=
  [.text "b", .text "a", .text "b"]

/-- A text behind numbers, and before a boolean. -/
def oddOneOut : List Native :=
  [.int 2, .int 1, .text "a", .bool true]

/-- Numbers with a boolean are sorted, and texts are, but not both at once. -/
theorem sorts_apart :
    (Filter.items (Value.sequence equalOnes).native = .ok equalOnes ∧
      (∀ n ∈ equalOnes, n.IsNumeric) ∧
      ∃ out, (standardAt true (.outside 0)).SortsTo Native.place (.sequence equalOnes)
        equalOnes out) ∧
    (Filter.items (Value.sequence twoBees).native = .ok twoBees ∧
      (∀ n ∈ twoBees, n.IsText) ∧
      ∃ out, (standardAt true (.outside 0)).SortsTo Native.content (.sequence twoBees)
        twoBees out) ∧
    Filter.items (Value.sequence oddOneOut).native = .ok oddOneOut ∧
    (∃ n ∈ oddOneOut, ∃ m, n.number? = some m) ∧ (∃ n ∈ oddOneOut, n.IsText) ∧
    ∃ cause, (standardAt true (.outside 0)).invoke "sort" (.sequence oddOneOut) [] =
      .error (.evaluation (.filterFailed "sort" cause)) := by
  have numeric : ∀ n ∈ equalOnes, n.IsNumeric := by
    simp only [equalOnes, List.forall_mem_cons]
    exact ⟨⟨_, rfl, nofun⟩, ⟨_, rfl, nofun⟩, ⟨_, rfl, nofun⟩, ⟨_, rfl, nofun⟩, nofun⟩
  have texts : ∀ n ∈ twoBees, n.IsText := by
    simp only [twoBees, List.forall_mem_cons]
    exact ⟨⟨_, rfl⟩, ⟨_, rfl⟩, ⟨_, rfl⟩, nofun⟩
  have number : ∃ n ∈ oddOneOut, ∃ m, n.number? = some m := ⟨_, .head _, _, rfl⟩
  have text : ∃ n ∈ oddOneOut, n.IsText := ⟨_, .tail _ (.tail _ (.head _)), _, rfl⟩
  exact ⟨⟨rfl, numeric, (sort_filter true _ _ _ rfl).1 numeric⟩,
    ⟨rfl, texts, (sort_filter true _ _ _ rfl).2.1 texts⟩,
    rfl, number, text, (sort_filter true _ _ _ rfl).2.2 number text⟩

end Registry

end Stencil
