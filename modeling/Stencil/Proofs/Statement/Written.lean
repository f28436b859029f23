import Stencil.Grammar.Basic
import Stencil.Proofs.Token.Written

/-! # Written expressions

    An expression is written as the lexemes of its operands and operators,
    in parentheses where it stands in a place that binds tighter than the
    expression itself, and nowhere else. -/

namespace Stencil

open Text Numeral

/-! ## Section 1: Places -/

/-- How tightly an expression binds, from loose to tight. -/
inductive Grade where
  | disjunction
  | conjunction
  | comparison
  | filtered
  | primary
deriving DecidableEq

/-- The number of looser grades. -/
def Grade.rank : Grade → Nat
  | .disjunction => 0
  | .conjunction => 1
  | .comparison => 2
  | .filtered => 3
  | .primary => 4

namespace Expr

/-- The grade of an expression that stands without parentheses. -/
def grade : Expr → Grade
  | .or _ _ => .disjunction
  | .and _ _ => .conjunction
  | .compare _ _ _ => .comparison
  | .filter _ _ _ => .filtered
  | .literal _ | .var _ | .property _ _ | .index _ _ | .range _ _ => .primary

/-- The lexemes of an expression of grade `own` in a place for expressions
    of grade `needed` or tighter. -/
def enclose (needed own : Grade) (ls : List Lexeme) : List Lexeme :=
  if own.rank < needed.rank then .operator .lpar :: (ls ++ [.operator .rpar]) else ls

mutual

/-- The lexemes of an expression.  Connectives and filters take operands of
    their own grade on the left; keys and the bounds of ranges may be of any
    grade. -/
def lexemes : Expr → List Lexeme
  | .literal value => [.literal value]
  | .var name => [.identifier name]
  | .property object name => enclose .primary object.grade (lexemes object) ++ [.property name]
  | .index object key =>
    enclose .primary object.grade (lexemes object) ++
      (.operator .lsqb :: (lexemes key ++ [.operator .rsqb]))
  | .range low high =>
    .operator .lpar :: (lexemes low ++
      (.operator .dotdot :: (lexemes high ++ [.operator .rpar])))
  | .compare relation left right =>
    enclose .filtered left.grade (lexemes left) ++
      (.operator (Grammar.relationOperator relation) ::
        enclose .filtered right.grade (lexemes right))
  | .and left right =>
    enclose .conjunction left.grade (lexemes left) ++
      (.operator .and :: enclose .comparison right.grade (lexemes right))
  | .or left right =>
    enclose .disjunction left.grade (lexemes left) ++
      (.operator .or :: enclose .conjunction right.grade (lexemes right))
  | .filter receiver name [] =>
    enclose .filtered receiver.grade (lexemes receiver) ++ [.operator .pipe, .identifier name]
  | .filter receiver name (arg :: args) =>
    enclose .filtered receiver.grade (lexemes receiver) ++
      (.operator .pipe :: .keyword name ::
        (enclose .primary arg.grade (lexemes arg) ++ moreLexemes args))

/-- The lexemes of filter arguments behind the first. -/
def moreLexemes : List Expr → List Lexeme
  | [] => []
  | arg :: args =>
    .operator .comma :: (enclose .primary arg.grade (lexemes arg) ++ moreLexemes args)

end

/-- Is the source a way to write the expression? -/
def IsWritten (e : Expr) (source : String) : Prop :=
  Written e.lexemes source.toList

end Expr

/-! ## Section 2: What can be written -/

/-- Can a lexeme be written?  Integers have at most 4300 digits, decimals
    are some digits with a point among them, texts avoid one of the quotes,
    and names are names, those that stand alone no reserved words. -/
def Lexeme.Legible : Lexeme → Prop
  | .literal (.int n) => n.natAbs < writeLimit
  | .literal (.float d) => ∃ (negative : Bool) (ds fs : List Char), ds ≠ [] ∧ fs ≠ [] ∧
      (∀ c ∈ ds, isDigit c = true) ∧ (∀ c ∈ fs, isDigit c = true) ∧
      d = .ofDecimal negative (ofDigits ((ds ++ fs).map plainDigit)) (-(fs.length : Int))
  | .literal (.text s) => singleQuote ∉ s.toList ∨ doubleQuote ∉ s.toList
  | .literal _ => True
  | .identifier name => IsName name.toList ∧ reservedWord? name = none
  | .keyword name | .property name => IsName name.toList
  | .selector _ => False
  | .operator o => o ≠ .dot

/-- Can an expression be written? -/
def Expr.Printable (e : Expr) : Prop :=
  ∀ l ∈ e.lexemes, l.Legible

theorem nameEnds_space (cs rest : List Char) : NameEnds cs (' ' :: rest) :=
  .inr (startsWithout_cons.2 (by decide))

theorem startsWithout_space {p : Char → Bool} (h : p ' ' = false) (rest : List Char) :
    StartsWithout p (' ' :: rest) :=
  startsWithout_cons.2 h

theorem ofDigits_toDigits (n : Nat) : ofDigits (Nat.toDigits 10 n) = n := by
  have value : Nat.ofDigitChars 10 (Nat.toDigits 10 n) 0 = n := Nat.ofDigitChars_ten_toDigits
  rwa [Nat.ofDigitChars_eq_foldl] at value

theorem length_toDigits_le {n : Nat} (h : n < writeLimit) :
    (Nat.toDigits 10 n).length ≤ maxDigits := by
  have positive : 0 < maxDigits := by decide
  unfold writeLimit at h
  -- the power must not be computed
  generalize maxDigits = most at h positive ⊢
  exact (Nat.length_toDigits_le_iff (by decide) positive).2 h

/-- A reserved word, or any other, in front of a space. -/
theorem Lexeme.written_word {w : String} (name : IsName w.toList) {l : Lexeme}
    (h : (reservedWord? w).getD (.identifier w) = l) (rest : List Char) :
    l.Written (' ' :: rest) w.toList :=
  .word name (nameEnds_space _ rest) (startsWithout_space (by decide) rest) h

/-- A reserved word, or any other, with nothing behind. -/
theorem written_lastWord {w : String} (name : IsName w.toList) {l : Lexeme}
    (h : (reservedWord? w).getD (.identifier w) = l) : Written [l] w.toList := by
  have last : l.Written [] w.toList :=
    .word name (.inr (startsWithout_nil _)) (startsWithout_nil _) h
  have whole := Written.lexeme last .nil
  rwa [List.append_nil] at whole

/-- The sign in front of a filter, in front of a space. -/
theorem Lexeme.written_pipe (rest : List Char) :
    (Lexeme.operator .pipe).Written (' ' :: rest) "|".toList := by
  apply Lexeme.Written.punctuation (by decide) (by decide)
  rintro c ⟨⟩
  decide +kernel

theorem isName_ofList {c : Char} {body : List Char} (start : isNameStart c = true)
    (parts : body.all isNamePart = true) : IsName (c :: body) :=
  ⟨c, body, start, fun d hd => List.all_eq_true.1 parts d hd, .inl rfl⟩

theorem Operator.exists_written {o : Operator} (h : o ≠ .dot) (rest : List Char) :
    ∃ cs, (Lexeme.operator o).Written (' ' :: rest) cs := by
  by_cases listed : (o.spelling, o) ∈ punctuation
  · refine ⟨_, .punctuation listed h ?_⟩
    -- no punctuation holds a space
    have spaceless : ∀ p ∈ punctuation, ' ' ∉ p.1.toList := by decide +kernel
    rintro c ⟨⟩ p hp same
    refine spaceless p hp ?_
    rw [same, String.toList_push]
    exact List.mem_append_right _ (List.mem_singleton.2 rfl)
  · cases o with
    | dotdot => exact ⟨_, .dotdot⟩
    | and => exact ⟨_, Lexeme.written_word (w := "and") (isName_ofList rfl rfl) rfl rest⟩
    | or => exact ⟨_, Lexeme.written_word (w := "or") (isName_ofList rfl rfl) rfl rest⟩
    | contains =>
      exact ⟨_, Lexeme.written_word (w := "contains") (isName_ofList rfl rfl) rfl rest⟩
    | isIn => exact ⟨_, Lexeme.written_word (w := "in") (isName_ofList rfl rfl) rfl rest⟩
    | _ => exact absurd (by decide) listed

theorem Literal.exists_written {value : Literal} (h : (Lexeme.literal value).Legible)
    (rest : List Char) : ∃ cs, (Lexeme.literal value).Written (' ' :: rest) cs := by
  cases value with
  | nil => exact ⟨_, Lexeme.written_word (w := "nil") (isName_ofList rfl rfl) rfl rest⟩
  | bool b =>
    cases b with
    | true => exact ⟨_, Lexeme.written_word (w := "true") (isName_ofList rfl rfl) rfl rest⟩
    | false => exact ⟨_, Lexeme.written_word (w := "false") (isName_ofList rfl rfl) rfl rest⟩
  | int n =>
    have digits : ∀ c ∈ Nat.toDigits 10 n.natAbs, c.isDigit = true := fun c hc =>
      Nat.isDigit_of_mem_toDigits (by decide) (by decide) hc
    have plain : (Nat.toDigits 10 n.natAbs).map plainDigit = Nat.toDigits 10 n.natAbs := by
      rw [List.map_congr_left fun c hc => plainDigit_of_isDigit (digits c hc), List.map_id']
    -- the sign is written in front of the digits of the absolute value
    have value : (if decide (n < 0) then
        -(ofDigits ((Nat.toDigits 10 n.natAbs).map plainDigit) : Int)
        else ofDigits ((Nat.toDigits 10 n.natAbs).map plainDigit)) = n := by
      rw [plain, ofDigits_toDigits]
      simp only [decide_eq_true_eq]
      omega
    have written := @Lexeme.Written.int (' ' :: rest) (decide (n < 0)) _
      Nat.toDigits_ne_nil (fun c hc => isDigit_of_isDigit (digits c hc)) (length_toDigits_le h)
      (startsWithout_space (by decide) rest) (by rintro fs ⟨⟩)
    rw [value] at written
    exact ⟨_, written⟩
  | float d =>
    obtain ⟨negative, ds, fs, hne, fne, hd, hf, rfl⟩ := h
    exact ⟨_, .float hne fne hd hf (startsWithout_space (by decide) rest)⟩
  | text s =>
    obtain single | double := h
    · exact ⟨_, .text (.inl rfl) single⟩
    · exact ⟨_, .text (.inr rfl) double⟩

theorem Lexeme.Legible.exists_written {l : Lexeme} (h : l.Legible) (rest : List Char) :
    ∃ cs, l.Written (' ' :: rest) cs := by
  cases l with
  | literal value => exact Literal.exists_written h rest
  | identifier name =>
    obtain ⟨shape, free⟩ := h
    refine ⟨_, Lexeme.written_word shape ?_ rest⟩
    rw [free]
    rfl
  | keyword name => exact ⟨_, .keyword h⟩
  | property name => exact ⟨_, .property h (nameEnds_space _ rest)⟩
  | selector s => exact h.elim
  | operator o => exact Operator.exists_written h rest

/-- Legible lexemes can be written, with a space behind each. -/
theorem exists_written {ls : List Lexeme} (h : ∀ l ∈ ls, l.Legible) : ∃ cs, Written ls cs := by
  induction ls with
  | nil => exact ⟨[], .nil⟩
  | cons l ls ih =>
    obtain ⟨legible, others⟩ := List.forall_mem_cons.1 h
    obtain ⟨rest, later⟩ := ih others
    obtain ⟨cs, written⟩ := legible.exists_written rest
    exact ⟨cs ++ ' ' :: rest, .lexeme written (.blank (by decide) later)⟩

theorem Expr.Printable.exists_written {e : Expr} (h : e.Printable) :
    ∃ source, e.IsWritten source := by
  obtain ⟨cs, written⟩ := Stencil.exists_written h
  refine ⟨String.ofList cs, ?_⟩
  unfold IsWritten
  rwa [String.toList_ofList]

end Stencil
