import Stencil.Proofs.Computation
import Stencil.Proofs.Number.Numeral
import Stencil.Token.Scan

/-! # Written lexemes

    How lexemes are written one behind the other.  A lexeme ends where it
    is written to end only if no character behind it belongs to a longer
    one: a name ends in front of anything but a character of names, a
    numeral in front of anything but a digit, and an integer moreover not
    in front of a point with a digit behind. -/

namespace Stencil

open Text Numeral

/-! ## Section 1: How lexemes are written -/

/-- Is this a name: a letter or underscore, name characters, and a question
    mark or none? -/
def IsName (cs : List Char) : Prop :=
  ∃ c body, isNameStart c = true ∧ (∀ d ∈ body, isNamePart d = true) ∧
    (cs = c :: body ∨ cs = c :: (body ++ ['?']))

/-- Do the characters start with none that satisfies `p`? -/
def StartsWithout (p : Char → Bool) (rest : List Char) : Prop :=
  ∀ c ∈ rest.head?, p c = false

/-- Does a name end in front of these characters?  A question mark ends it
    in any case. -/
def NameEnds (cs rest : List Char) : Prop :=
  cs.getLast? = some '?' ∨ StartsWithout (fun c => isNamePart c || c = '?') rest

/-- The ways to write a lexeme in front of `rest`, so that it ends there. -/
inductive Lexeme.Written (rest : List Char) : Lexeme → List Char → Prop
  | word {w : String} {l : Lexeme} : IsName w.toList → NameEnds w.toList rest →
      StartsWithout (· = ':') rest → (reservedWord? w).getD (.identifier w) = l →
      Written rest l w.toList
  | keyword {name : String} : IsName name.toList →
      Written rest (.keyword name) (name.toList ++ [':'])
  | property {name : String} : IsName name.toList → NameEnds name.toList rest →
      Written rest (.property name) ('.' :: name.toList)
  | text {s : String} {q : Char} : q = singleQuote ∨ q = doubleQuote → q ∉ s.toList →
      Written rest (.literal (.text s)) (q :: (s.toList ++ [q]))
  | int {negative : Bool} {ds : List Char} : ds ≠ [] → (∀ c ∈ ds, isDigit c = true) →
      ds.length ≤ maxDigits → StartsWithout isDigit rest →
      (∀ fs, rest = '.' :: fs → StartsWithout isDigit fs) →
      Written rest (.literal (.int (if negative then -(ofDigits (ds.map plainDigit) : Int)
        else ofDigits (ds.map plainDigit)))) (signed negative ds)
  | float {negative : Bool} {ds fs : List Char} : ds ≠ [] → fs ≠ [] →
      (∀ c ∈ ds, isDigit c = true) → (∀ c ∈ fs, isDigit c = true) → StartsWithout isDigit rest →
      Written rest (.literal (.float (.ofDecimal negative (ofDigits ((ds ++ fs).map plainDigit))
        (-(fs.length : Int))))) (signed negative (ds ++ '.' :: fs))
  | dotdot : Written rest (.operator .dotdot) ['.', '.']
  | punctuation {spelling : String} {o : Operator} : (spelling, o) ∈ punctuation → o ≠ .dot →
      (∀ c ∈ rest.head?, ∀ p ∈ punctuation, p.1 ≠ spelling.push c) →
      Written rest (.operator o) spelling.toList

/-- The ways to write lexemes one behind the other, with white space before,
    between and behind them or none. -/
inductive Written : List Lexeme → List Char → Prop
  | nil : Written [] []
  | blank {c : Char} {ls : List Lexeme} {cs : List Char} : isBlank c = true →
      Written ls cs → Written ls (c :: cs)
  | lexeme {l : Lexeme} {ls : List Lexeme} {cs rest : List Char} : l.Written rest cs →
      Written ls rest → Written (l :: ls) (cs ++ rest)

/-! ## Section 2: Characters -/

theorem startsWithout_nil (p : Char → Bool) : StartsWithout p [] := by
  intro c hc
  cases hc

theorem startsWithout_cons {p : Char → Bool} {c : Char} {cs : List Char} :
    StartsWithout p (c :: cs) ↔ p c = false := by
  simp [StartsWithout]

/-- What a run of characters is, in front of others that do not go on with
    it. -/
theorem takeWhile_append {p : Char → Bool} {cs rest : List Char} (h : ∀ c ∈ cs, p c = true)
    (ends : StartsWithout p rest) : (cs ++ rest).takeWhile p = cs := by
  rw [List.takeWhile_append_of_pos h]
  cases rest with
  | nil => simp
  | cons c rest =>
    rw [List.takeWhile_cons_of_neg (by simp [startsWithout_cons.1 ends]), List.append_nil]

/-- The code of a character with which a name starts. -/
theorem toNat_of_isNameStart {c : Char} (h : isNameStart c = true) :
    (0x41 ≤ c.toNat ∧ c.toNat ≤ 0x5A) ∨ c.toNat = 0x5F ∨ (0x61 ≤ c.toNat ∧ c.toNat ≤ 0x7A) := by
  have letter : (decide (0x41 ≤ c.val ∧ c.val ≤ 0x5A) ||
      (decide (0x61 ≤ c.val) && decide (c.val ≤ 0x7A)) || decide (c = '_')) = true := h
  simp only [Bool.or_eq_true, Bool.and_eq_true, decide_eq_true_eq, UInt32.le_iff_toNat_le] at letter
  obtain (⟨low, high⟩ | ⟨low, high⟩) | rfl := letter
  · exact .inl ⟨low, high⟩
  · exact .inr (.inr ⟨low, high⟩)
  · exact .inr (.inl rfl)

theorem isBlank_of_isNameStart {c : Char} (h : isNameStart c = true) : isBlank c = false := by
  have code := toNat_of_isNameStart h
  simp only [isBlank, Bool.or_eq_false_iff, Bool.and_eq_false_iff, decide_eq_false_iff_not]
  omega

theorem isDigit_of_isNameStart {c : Char} (h : isNameStart c = true) : isDigit c = false := by
  have code := toNat_of_isNameStart h
  unfold isDigit digitValue?
  rw [if_pos (by omega), if_neg (by omega)]
  rfl

/-- A character with which a name starts is none of the others with which a
    lexeme starts. -/
theorem ne_of_isNameStart {c : Char} (h : isNameStart c = true) :
    c ≠ '%' ∧ c ≠ singleQuote ∧ c ≠ doubleQuote ∧ c ≠ '-' ∧ c ≠ '.' := by
  refine ⟨?_, ?_, ?_, ?_, ?_⟩ <;>
    · rintro rfl
      revert h
      decide

/-! ## Section 3: Lengths -/

theorem IsName.length_pos {cs : List Char} (h : IsName cs) : 0 < cs.length := by
  obtain ⟨c, body, -, -, rfl | rfl⟩ := h <;> simp

theorem IsName.exists_start {cs : List Char} (h : IsName cs) :
    ∃ c body, isNameStart c = true ∧ cs = c :: body := by
  obtain ⟨c, body, start, -, shape | shape⟩ := h
  · exact ⟨c, body, start, shape⟩
  · exact ⟨c, _, start, shape⟩

theorem nameLength_append {cs rest : List Char} (name : IsName cs) (ends : NameEnds cs rest) :
    nameLength (cs ++ rest) = cs.length := by
  obtain ⟨c, body, start, parts, rfl | rfl⟩ := name
  · -- no question mark belongs to the name, so none may follow
    have ends : StartsWithout (fun d => isNamePart d || d = '?') rest := by
      refine ends.resolve_left fun last => ?_
      rcases List.mem_cons.1 (List.mem_of_getLast? last) with rfl | inside
      · cases start
      · exact absurd (parts _ inside) (by decide)
    have taken : (body ++ rest).takeWhile isNamePart = body :=
      takeWhile_append parts fun d hd => (Bool.or_eq_false_iff.1 (ends d hd)).1
    have unquestioned : rest.head? ≠ some '?' := by
      intro head
      have := ends _ head
      simp at this
    rw [List.cons_append, nameLength, if_pos start]
    simp only [taken, List.drop_left, if_neg unquestioned]
    rfl
  · have taken : (body ++ '?' :: rest).takeWhile isNamePart = body :=
      takeWhile_append parts (startsWithout_cons.2 (by decide))
    have shape : c :: (body ++ ['?']) ++ rest = c :: (body ++ '?' :: rest) := by simp
    rw [shape, nameLength, if_pos start]
    simp only [taken, List.drop_left, List.head?_cons, if_true]
    simp

theorem keywordLength_colon {cs : List Char} (name : IsName cs) (rest : List Char) :
    keywordLength (cs ++ ':' :: rest) = cs.length + 1 := by
  have ends : NameEnds cs (':' :: rest) := .inr (startsWithout_cons.2 (by decide))
  unfold keywordLength
  simp only [nameLength_append name ends, List.drop_left, List.head?_cons]
  rw [if_pos ⟨name.length_pos, trivial⟩]

theorem keywordLength_append {cs rest : List Char} (name : IsName cs) (ends : NameEnds cs rest)
    (other : StartsWithout (· = ':') rest) : keywordLength (cs ++ rest) = 0 := by
  have noColon : rest.head? ≠ some ':' := by
    intro head
    have := other _ head
    simp at this
  unfold keywordLength
  simp only [nameLength_append name ends, List.drop_left]
  rw [if_neg fun h => noColon h.2]

theorem propertyLength_append {cs rest : List Char} (name : IsName cs) (ends : NameEnds cs rest) :
    propertyLength ('.' :: (cs ++ rest)) = cs.length + 1 := by
  have some_character : ¬ cs.length = 0 := Nat.ne_of_gt name.length_pos
  rw [propertyLength, nameLength_append name ends, if_neg some_character]

theorem textLength_quoted {q : Char} (quote : q = singleQuote ∨ q = doubleQuote) {cs : List Char}
    (other : q ∉ cs) (rest : List Char) : textLength (q :: (cs ++ q :: rest)) = cs.length + 2 := by
  have taken : (cs ++ q :: rest).takeWhile (· ≠ q) = cs := by
    refine takeWhile_append (fun c hc => ?_) (startsWithout_cons.2 (by simp))
    simp only [ne_eq, decide_eq_true_eq]
    rintro rfl
    exact other hc
  rw [textLength, if_pos quote]
  simp only [taken]
  rw [if_pos (by simp)]

section

variable {negative : Bool} {ds fs rest : List Char}

theorem intLength_signed (hd : ∀ c ∈ ds, isDigit c = true) (hne : ds ≠ [])
    (ends : StartsWithout isDigit rest) :
    intLength (signed negative ds ++ rest) = (signed negative ds).length := by
  have taken : (ds ++ rest).takeWhile isDigit = ds := takeWhile_append hd ends
  cases negative with
  | true =>
    show intLength ('-' :: (ds ++ rest)) = ds.length + 1
    rw [intLength]
    simp only [taken]
    rw [if_neg (by simpa using hne)]
  | false =>
    show intLength (ds ++ rest) = ds.length
    unfold intLength
    split
    next others shape =>
      -- a minus sign is no digit
      cases ds with
      | nil => exact absurd rfl hne
      | cons d ds =>
        cases shape
        exact absurd (hd '-' List.mem_cons_self) (by decide)
    next => rw [taken]

theorem signed_append (negative : Bool) (cs rest : List Char) :
    signed negative (cs ++ rest) = signed negative cs ++ rest := by
  cases negative <;> rfl

theorem length_signed_pos (hne : ds ≠ []) : 0 < (signed negative ds).length := by
  cases negative with
  | true => exact Nat.succ_pos _
  | false => exact List.length_pos_iff.2 hne

theorem floatLength_signed (hd : ∀ c ∈ ds, isDigit c = true) (hne : ds ≠ [])
    (hf : ∀ c ∈ fs, isDigit c = true) (fne : fs ≠ []) (ends : StartsWithout isDigit rest) :
    floatLength (signed negative (ds ++ '.' :: fs) ++ rest) =
      (signed negative (ds ++ '.' :: fs)).length := by
  have point : StartsWithout isDigit ('.' :: (fs ++ rest)) := startsWithout_cons.2 (by decide)
  have taken : (fs ++ rest).takeWhile isDigit = fs := takeWhile_append hf ends
  have whole : intLength (signed negative ds ++ '.' :: (fs ++ rest)) =
      (signed negative ds).length := intLength_signed hd hne point
  have some_digits : ¬ ((signed negative ds).length = 0 ∨ fs.length = 0) := by
    have : 0 < (signed negative ds).length := length_signed_pos hne
    have := List.length_pos_iff.2 fne
    omega
  rw [signed_append, List.append_assoc, List.cons_append]
  unfold floatLength
  simp only [whole, List.drop_left, taken]
  rw [if_neg some_digits, List.length_append, List.length_cons]
  omega

theorem floatLength_int (hd : ∀ c ∈ ds, isDigit c = true) (hne : ds ≠ [])
    (ends : StartsWithout isDigit rest)
    (noFraction : ∀ fs, rest = '.' :: fs → StartsWithout isDigit fs) :
    floatLength (signed negative ds ++ rest) = 0 := by
  unfold floatLength
  simp only [intLength_signed hd hne ends, List.drop_left]
  split
  next fs =>
    have digitless : ∀ c ∈ ([] : List Char), isDigit c = true := by simp
    have none : fs.takeWhile isDigit = [] := takeWhile_append digitless (noFraction fs rfl)
    rw [if_pos (.inr (by simp [none]))]
  next => rfl

end

end Stencil
