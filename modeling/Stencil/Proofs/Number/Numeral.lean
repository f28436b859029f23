import Stencil.Native.Display

/-! # Reading and writing numerals

    What digits of any script, with a minus sign or not, are read as: an
    integer, unless there are too many of them, and a decimal number if a
    point stands among them.  An integer is written unless it has too many
    digits. -/

namespace Stencil

/-! ## Section 1: Digits -/

namespace Text

theorem digitValue?_lt {c : Char} {d : Nat} (h : digitValue? c = some d) : d < 10 := by
  unfold digitValue? at h
  split at h
  · split at h
    · cases h
      omega
    · cases h
  · obtain ⟨z, found, rfl⟩ := Option.map_eq_some_iff.1 h
    have near := List.find?_some found
    simp only [Bool.and_eq_true, decide_eq_true_eq] at near
    omega

theorem exists_digitValue? {c : Char} (h : isDigit c = true) : ∃ d, digitValue? c = some d :=
  Option.isSome_iff_exists.1 h

theorem plainDigit_isDigit {c : Char} (h : isDigit c = true) : (plainDigit c).isDigit = true := by
  obtain ⟨d, value⟩ := exists_digitValue? h
  have all : ∀ d < 10, (Char.ofNat (0x30 + d)).isDigit = true := by decide
  unfold plainDigit
  rw [value]
  exact all d (digitValue?_lt value)

/-- No script has its digits where white space is. -/
theorem zeros_apart : ∀ z ∈ zeros, z = 0x30 ∨ (0x660 ≤ z ∧ z + 10 ≤ 0x1680) ∨
    (0x1681 ≤ z ∧ z + 10 ≤ 0x2000) ∨ 0x3001 ≤ z := by
  decide

theorem isBlank_of_isDigit {c : Char} (h : isDigit c = true) : isBlank c = false := by
  obtain ⟨d, value⟩ := exists_digitValue? h
  -- digits are ASCII ones or begin at one of the zeros, and white space lies between these ranges
  have apart : (0x30 ≤ c.toNat ∧ c.toNat < 0x3A) ∨ (0x660 ≤ c.toNat ∧ c.toNat < 0x1680) ∨
      (0x1681 ≤ c.toNat ∧ c.toNat < 0x2000) ∨ 0x3001 ≤ c.toNat := by
    unfold digitValue? at value
    split at value
    · split at value
      · omega
      · cases value
    · obtain ⟨z, found, -⟩ := Option.map_eq_some_iff.1 value
      have near := List.find?_some found
      simp only [Bool.and_eq_true, decide_eq_true_eq] at near
      have := zeros_apart z (List.mem_of_find?_eq_some found)
      omega
  simp only [isBlank, Bool.or_eq_false_iff, Bool.and_eq_false_iff, decide_eq_false_iff_not]
  omega

theorem isDigit_of_isDigit {c : Char} (h : c.isDigit = true) : isDigit c = true := by
  simp only [Char.isDigit, Bool.and_eq_true, decide_eq_true_eq, UInt32.le_iff_toNat_le] at h
  have low : 0x30 ≤ c.toNat := h.1
  have high : c.toNat ≤ 0x39 := h.2
  unfold isDigit digitValue?
  rw [if_pos (by omega), if_pos ⟨low, high⟩]
  rfl

theorem plainDigit_of_isDigit {c : Char} (h : c.isDigit = true) : plainDigit c = c := by
  simp only [Char.isDigit, Bool.and_eq_true, decide_eq_true_eq, UInt32.le_iff_toNat_le] at h
  have low : 0x30 ≤ c.toNat := h.1
  have high : c.toNat ≤ 0x39 := h.2
  unfold plainDigit digitValue?
  rw [if_pos (by omega), if_pos ⟨low, high⟩]
  show Char.ofNat (0x30 + (c.toNat - 0x30)) = c
  rw [Nat.add_sub_cancel' low]
  exact Char.ofNat_toNat c

end Text

namespace Numeral

open Text

/-- Digits with a minus sign or not. -/
def signed (negative : Bool) (cs : List Char) : List Char :=
  if negative then '-' :: cs else cs

/-! ## Section 2: What stands in a numeral -/

/-- May the character stand in a numeral of the scanner? -/
def IsInner (c : Char) : Prop :=
  isDigit c = true ∨ c = '-' ∨ c = '.'

theorem IsInner.not_padding {c : Char} (h : IsInner c) : isPadding c = false := by
  unfold isPadding
  obtain digit | rfl | rfl := h
  · rw [isBlank_of_isDigit digit]
    rfl
  · decide
  · decide

theorem IsInner.plain_ne_underscore {c : Char} (h : IsInner c) : plainDigit c ≠ '_' := by
  obtain digit | rfl | rfl := h
  · intro same
    have := plainDigit_isDigit digit
    rw [same] at this
    cases this
  · decide
  · decide

theorem dropLeading_eq_self {p : Char → Bool} {cs : List Char} (h : ∀ c ∈ cs, p c = false) :
    dropLeading p cs = cs := by
  cases cs with
  | nil => rfl
  | cons c cs => exact List.dropWhile_cons_of_neg (by simp [h c List.mem_cons_self])

theorem dropTrailing_eq_self {p : Char → Bool} {cs : List Char} (h : ∀ c ∈ cs, p c = false) :
    dropTrailing p cs = cs := by
  have reversed : dropLeading p cs.reverse = cs.reverse :=
    dropLeading_eq_self fun c hc => h c (List.mem_reverse.1 hc)
  show (dropLeading p cs.reverse).reverse = cs
  rw [reversed, List.reverse_reverse]

theorem plain_ofList {cs : List Char} (h : ∀ c ∈ cs, IsInner c) :
    plain (String.ofList cs) = cs.map plainDigit := by
  have unpadded : ∀ c ∈ cs, isPadding c = false := fun c hc => (h c hc).not_padding
  unfold plain
  rw [String.toList_ofList, dropLeading_eq_self unpadded, dropTrailing_eq_self unpadded]

theorem underscoresBetween_of_none {cs : List Char} (h : ∀ c ∈ cs, c ≠ '_') (afterDigit : Bool) :
    underscoresBetween afterDigit cs = true := by
  induction cs generalizing afterDigit with
  | nil => rfl
  | cons c cs ih =>
    have rest := ih (fun d hd => h d (List.mem_cons_of_mem _ hd)) c.isDigit
    have notUnderscore : c ≠ '_' := h c List.mem_cons_self
    unfold underscoresBetween
    split
    next same => cases same
    next same =>
      cases same
      exact absurd rfl notUnderscore
    next same =>
      cases same
      exact absurd rfl notUnderscore
    next same =>
      cases same
      exact rest

/-- ASCII digits are no sign. -/
theorem splitSign_signed (negative : Bool) {cs : List Char} (h : ∀ c ∈ cs, c.isDigit = true)
    (tail : List Char) (hne : cs ≠ []) :
    splitSign (signed negative (cs ++ tail)) = (negative, cs ++ tail) := by
  cases negative with
  | true => rfl
  | false =>
    cases cs with
    | nil => exact absurd rfl hne
    | cons c cs =>
      have digit := h c List.mem_cons_self
      show splitSign (c :: (cs ++ tail)) = _
      unfold splitSign
      split
      next same =>
        cases same
        cases digit
      next same =>
        cases same
        cases digit
      next => rfl

/-! ## Section 3: Reading -/

section

variable {ds : List Char}

theorem map_signed (negative : Bool) (cs : List Char) :
    (signed negative cs).map plainDigit = signed negative (cs.map plainDigit) := by
  cases negative <;> rfl

theorem mem_signed {negative : Bool} {cs : List Char} {c : Char} (h : c ∈ signed negative cs) :
    c = '-' ∨ c ∈ cs := by
  cases negative with
  | true => exact List.mem_cons.1 h
  | false => exact .inr h

theorem plain_digits (hd : ∀ c ∈ ds, isDigit c = true) :
    ∀ c ∈ ds.map plainDigit, c.isDigit = true := by
  intro c hc
  obtain ⟨d, hd', rfl⟩ := List.mem_map.1 hc
  exact plainDigit_isDigit (hd d hd')

theorem ne_underscore_of_isDigit {c : Char} (h : c.isDigit = true) : c ≠ '_' := by
  rintro rfl
  cases h

theorem takeWhile_eq_self {p : Char → Bool} {cs : List Char} (h : ∀ c ∈ cs, p c = true) :
    cs.takeWhile p = cs := by
  have whole : (cs ++ []).takeWhile p = cs ++ [].takeWhile p := List.takeWhile_append_of_pos h
  rwa [List.append_nil, List.takeWhile_nil, List.append_nil] at whole

/-- What some digits are read as, with a minus sign or not. -/
theorem readInt_signed (negative : Bool) (hd : ∀ c ∈ ds, isDigit c = true) (hne : ds ≠ []) :
    readInt (String.ofList (signed negative ds)) =
      if maxDigits < ds.length then .error (.tooManyDigits ds.length)
      else .ok (if negative then -(ofDigits (ds.map plainDigit) : Int)
        else ofDigits (ds.map plainDigit)) := by
  have inner : ∀ c ∈ signed negative ds, IsInner c := by
    intro c hc
    obtain rfl | hc := mem_signed hc
    · exact .inr (.inl rfl)
    · exact .inl (hd c hc)
  have digits := plain_digits hd
  have some_digit : ds.map plainDigit ≠ [] := by simpa using hne
  have split : splitSign ((signed negative ds).map plainDigit) =
      (negative, ds.map plainDigit) := by
    have split := splitSign_signed negative digits [] some_digit
    rwa [List.append_nil, ← map_signed] at split
  have run : (ds.map plainDigit).takeWhile (fun c => c.isDigit || c = '_') = ds.map plainDigit :=
    takeWhile_eq_self fun c hc => by simp [digits c hc]
  have filtered : (ds.map plainDigit).filter Char.isDigit = ds.map plainDigit :=
    List.filter_eq_self.2 digits
  have between : underscoresBetween false (ds.map plainDigit) = true :=
    underscoresBetween_of_none (fun c hc => ne_underscore_of_isDigit (digits c hc)) false
  -- there are digits only, so nothing is left of them and none is separated
  unfold readInt
  rw [plain_ofList inner, split]
  simp only [run, filtered, between, List.length_map]
  by_cases tooMany : maxDigits < ds.length
  · simp [tooMany]
  · simp [tooMany, hne]

theorem dropWhile_eq_nil {p : Char → Bool} {cs : List Char} (h : ∀ c ∈ cs, p c = true) :
    cs.dropWhile p = [] := by
  have all : (cs ++ []).dropWhile p = [].dropWhile p := List.dropWhile_append_of_pos h
  rwa [List.append_nil, List.dropWhile_nil] at all

/-- What ASCII digits with a point among them are, if there are any in front
    of it. -/
theorem decimal?_digits (negative : Bool) {ws fs : List Char} (hw : ∀ c ∈ ws, c.isDigit = true)
    (hf : ∀ c ∈ fs, c.isDigit = true) (hne : ws ≠ []) :
    decimal? negative (ws ++ '.' :: fs) =
      some (Double.ofDecimal negative (ofDigits (ws ++ fs)) (-(fs.length : Int))) := by
  have point : ¬ ('.' : Char).isDigit = true := by decide
  have whole : (ws ++ '.' :: fs).takeWhile Char.isDigit = ws := by
    rw [List.takeWhile_append_of_pos hw, List.takeWhile_cons_of_neg point, List.append_nil]
  have rest : (ws ++ '.' :: fs).dropWhile Char.isDigit = '.' :: fs := by
    rw [List.dropWhile_append_of_pos hw, List.dropWhile_cons_of_neg point]
  have some_part : ¬ (ws.isEmpty = true ∧ fs.isEmpty = true) := by
    simp [hne]
  unfold decimal?
  simp only [whole, rest, takeWhile_eq_self hf, dropWhile_eq_nil hf]
  rw [if_neg some_part]
  simp [exponentPart?]

/-- What digits with a point among them are read as. -/
theorem readDecimal_signed (negative : Bool) {fs : List Char} (hd : ∀ c ∈ ds, isDigit c = true)
    (hf : ∀ c ∈ fs, isDigit c = true) (hne : ds ≠ []) :
    readDecimal (String.ofList (signed negative (ds ++ '.' :: fs))) =
      .ok (Double.ofDecimal negative (ofDigits ((ds ++ fs).map plainDigit)) (-(fs.length : Int))) := by
  have inner : ∀ c ∈ signed negative (ds ++ '.' :: fs), IsInner c := by
    intro c hc
    obtain rfl | hc := mem_signed hc
    · exact .inr (.inl rfl)
    · rcases List.mem_append.1 hc with hc | hc
      · exact .inl (hd c hc)
      · rcases List.mem_cons.1 hc with rfl | hc
        · exact .inr (.inr rfl)
        · exact .inl (hf c hc)
  have noUnderscore : ∀ c ∈ (signed negative (ds ++ '.' :: fs)).map plainDigit, c ≠ '_' := by
    intro c hc
    obtain ⟨d, hd', rfl⟩ := List.mem_map.1 hc
    exact (inner d hd').plain_ne_underscore
  have some_digit : ds.map plainDigit ≠ [] := by simpa using hne
  -- there are no underscores, so nothing is left out
  have kept : ((signed negative (ds ++ '.' :: fs)).map plainDigit).filter (· ≠ '_') =
      signed negative (ds.map plainDigit ++ '.' :: fs.map plainDigit) := by
    rw [List.filter_eq_self.2 (by simpa using noUnderscore), map_signed, List.map_append,
      List.map_cons]
    rfl
  unfold readDecimal
  rw [plain_ofList inner]
  simp only [kept]
  rw [splitSign_signed negative (plain_digits hd) _ some_digit]
  simp only [underscoresBetween_of_none noUnderscore,
    decimal?_digits negative (plain_digits hd) (plain_digits hf) some_digit]
  simp

end

/-- Three digits are not too many to be written. -/
theorem lt_writeLimit_of_short {n : Nat} (h : n < 1000) : n < writeLimit := by
  have room : 3 ≤ maxDigits := by decide
  unfold writeLimit
  -- the power must not be computed
  generalize maxDigits = most at room ⊢
  have wide : Nat.pow 10 3 ≤ Nat.pow 10 most := Nat.pow_le_pow_right (Nat.zero_lt_succ 9) room
  exact Nat.lt_of_lt_of_le h wide

end Numeral

theorem Native.writeInt_of_lt {n : Int} (h : n.natAbs < Numeral.writeLimit) :
    writeInt n = .ok (Numeral.text n) := by
  rw [writeInt, Numeral.write, if_pos h]
  rfl

theorem Native.writeInt_of_le {n : Int} (h : Numeral.writeLimit ≤ n.natAbs) :
    writeInt n = .error (.numeral .tooLong) := by
  rw [writeInt, Numeral.write, if_neg (Nat.not_lt.2 h)]
  rfl

end Stencil
