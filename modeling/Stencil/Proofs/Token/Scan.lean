import Stencil.Proofs.Number.Numeral
import Stencil.Proofs.Value.Access
import Stencil.Token.Scan

/-! # What scanning fails with

    A numeral is digits, with a minus sign or not, and with a point and
    digits behind or not.  So a decimal can always be read, and an integer
    unless it has too many digits; a scan fails with such an integer, or
    with a character that starts no lexeme. -/

namespace Stencil

open Text Numeral

/-! ## Section 1: Numerals -/

theorem take_length_takeWhile (p : Char → Bool) (cs : List Char) :
    cs.take (cs.takeWhile p).length = cs.takeWhile p :=
  (List.prefix_iff_eq_take.1 (List.takeWhile_prefix p)).symm

theorem isDigit_of_mem_takeWhile {cs : List Char} {c : Char} (h : c ∈ cs.takeWhile isDigit) :
    isDigit c = true :=
  List.all_eq_true.1 List.all_takeWhile c h

/-- The text of an integer. -/
theorem take_intLength {cs : List Char} (h : 0 < intLength cs) :
    ∃ negative ds, ds ≠ [] ∧ (∀ c ∈ ds, isDigit c = true) ∧
      cs.take (intLength cs) = signed negative ds := by
  unfold intLength at h ⊢
  split at h
  next rest =>
    simp only at h ⊢
    split at h
    · omega
    next notEmpty =>
      refine ⟨true, rest.takeWhile isDigit, ?_, fun c hc => isDigit_of_mem_takeWhile hc, ?_⟩
      · exact fun empty => notEmpty (by rw [empty]; rfl)
      · rw [if_neg notEmpty, List.take_succ_cons, take_length_takeWhile]
        rfl
  next =>
    refine ⟨false, cs.takeWhile isDigit, ?_, fun c hc => isDigit_of_mem_takeWhile hc, ?_⟩
    · exact List.length_pos_iff.1 h
    · exact take_length_takeWhile _ _

/-- The text of a decimal. -/
theorem take_floatLength {cs : List Char} (h : 0 < floatLength cs) :
    ∃ negative ds fs, ds ≠ [] ∧ (∀ c ∈ ds, isDigit c = true) ∧ (∀ c ∈ fs, isDigit c = true) ∧
      cs.take (floatLength cs) = signed negative (ds ++ '.' :: fs) := by
  unfold floatLength at h ⊢
  simp only at h ⊢
  -- a point has to follow the integer
  split at h
  next rest behind =>
    split at h
    · omega
    next notEmpty =>
      obtain ⟨some_digit, some_fraction⟩ := not_or.1 notEmpty
      obtain ⟨negative, ds, hne, hd, text⟩ := take_intLength (Nat.pos_of_ne_zero some_digit)
      refine ⟨negative, ds, rest.takeWhile isDigit, hne, hd,
        fun c hc => isDigit_of_mem_takeWhile hc, ?_⟩
      rw [if_neg notEmpty, Nat.add_assoc, List.take_add, text, behind, Nat.add_comm,
        List.take_succ_cons, take_length_takeWhile]
      cases negative with
      | true => rfl
      | false => rfl
  next => omega

/-! ## Section 2: Faults -/

/-- Is this what reading a source may fail with? -/
def Fault.IsOfSource (f : Fault) : Prop :=
  (∃ cause, f = .malformed cause) ∨ ∃ cause, f = .operand cause ∧ cause.IsUnguarded

/-- Is this what scanning a source may fail with? -/
def Fault.IsOfScan (f : Fault) : Prop :=
  (∃ c source, f = .malformed (.unexpectedCharacter c source)) ∨
    ∃ cause, f = .operand cause ∧ cause.IsUnguarded

theorem Fault.IsOfScan.isOfSource {f : Fault} (h : f.IsOfScan) : f.IsOfSource := by
  obtain ⟨c, source, same⟩ | unguarded := h
  · exact .inl ⟨_, same⟩
  · exact .inr unguarded

/-- Is a numeral at the head of a source readable, but for its length? -/
inductive Scanned.Fair : Scanned → Prop
  | blank (length : Nat) : Fair (.blank length)
  | lexeme (l : Lexeme) (length : Nat) : Fair (.lexeme l length)
  | unreadable {cause : Numeral.Fault} :
      (OperandFault.numeral cause).IsUnguarded → Fair (.unreadable cause)
  | nothing : Fair .nothing

theorem numeralLexeme_fair {α : Type} {read : Except Numeral.Fault α} {f : α → Literal} {n : Nat}
    (h : Meets (fun _ => True) (fun cause => (OperandFault.numeral cause).IsUnguarded) read) :
    (numeralLexeme (read.map f) n).Fair := by
  cases h with
  | ok _ => exact .lexeme _ n
  | error unguarded => exact .unreadable unguarded

theorem readDecimal_meets {cs : List Char} (h : 0 < floatLength cs) :
    Meets (fun _ => True) (fun cause => (OperandFault.numeral cause).IsUnguarded)
      (readDecimal (slice cs (floatLength cs))) := by
  have readable : ∃ d, readDecimal (slice cs (floatLength cs)) = .ok d := by
    obtain ⟨negative, ds, fs, hne, hd, hf, text⟩ := take_floatLength h
    unfold slice
    rw [text]
    exact ⟨_, readDecimal_signed negative hd hf hne⟩
  obtain ⟨d, read⟩ := readable
  rw [read]
  exact .ok trivial

theorem scanHead_fair (cs : List Char) : (scanHead cs).Fair := by
  unfold scanHead
  -- rule by rule: only a numeral may be unreadable
  split
  · exact .blank _
  split
  · exact .lexeme _ _
  split
  · exact .lexeme _ _
  split
  next decimal => exact numeralLexeme_fair (readDecimal_meets decimal)
  split
  · exact numeralLexeme_fair (Value.readInt_meets _)
  split
  · exact .lexeme _ _
  split
  · exact .lexeme _ _
  split
  · exact .lexeme _ _
  split
  · exact .lexeme _ _
  · split
    · exact .lexeme _ _
    · exact .nothing

theorem scanFrom_meets (source : String) (cs : List Char) (start skip : Nat) :
    Meets (fun _ => True) Fault.IsOfScan (scanFrom source start skip cs) := by
  -- on the characters: those of a lexeme are skipped one by one
  induction cs generalizing start skip with
  | nil =>
    rw [scanFrom]
    exact .ok trivial
  | cons c cs ih =>
    cases skip with
    | succ skip =>
      rw [scanFrom]
      exact ih (start + 1) skip
    | zero =>
      rw [scanFrom]
      cases scanned : scanHead (c :: cs) with
      | blank n => exact ih (start + 1) (n - 1)
      | lexeme l n => exact Meets.bind (ih (start + 1) (n - 1)) fun _ _ => .ok trivial
      | unreadable cause =>
        have fair := scanHead_fair (c :: cs)
        rw [scanned] at fair
        cases fair with
        | unreadable unguarded => exact .error (.inr ⟨_, rfl, unguarded⟩)
      | nothing => exact .error (.inl ⟨_, _, rfl⟩)

theorem scan_meets (source : String) :
    Meets (fun _ => True) Fault.IsOfScan (scan source) :=
  scanFrom_meets source source.toList 0 0

end Stencil
