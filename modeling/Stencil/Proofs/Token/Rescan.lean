import Stencil.Proofs.Token.Written

/-! # Scanning what was written

    Scanning reads written lexemes back: at the head of a written lexeme
    no earlier rule applies, and the rule for the lexeme takes all of it. -/

namespace Stencil

open Text Numeral

/-! ## Section 1: Rules that do not apply -/

section

variable {c : Char}

theorem length_takeWhile_isBlank (h : isBlank c = false) (cs : List Char) :
    ¬ 0 < ((c :: cs).takeWhile isBlank).length := by
  simp [h]

theorem selectorAt?_eq_none (h : c ≠ '%') (cs : List Char) : selectorAt? (c :: cs) = none := by
  unfold selectorAt?
  rw [List.find?_eq_none]
  intro s _
  simp [List.isPrefixOf, h.symm]

theorem textLength_eq_zero (h : ¬ (c = singleQuote ∨ c = doubleQuote)) (cs : List Char) :
    textLength (c :: cs) = 0 := by
  rw [textLength, if_neg h]

theorem intLength_eq_zero (digit : isDigit c = false) (minus : c ≠ '-') (cs : List Char) :
    intLength (c :: cs) = 0 := by
  unfold intLength
  split
  next shape =>
    cases shape
    exact absurd rfl minus
  next => simp [digit]

theorem floatLength_eq_zero {cs : List Char} (h : intLength cs = 0) : floatLength cs = 0 := by
  unfold floatLength
  simp only [h]
  split
  · rw [if_pos (.inl trivial)]
  · rfl

theorem propertyLength_eq_zero (h : c ≠ '.') (cs : List Char) : propertyLength (c :: cs) = 0 := by
  unfold propertyLength
  split
  next shape =>
    cases shape
    exact absurd rfl h
  next => rfl

theorem nameLength_eq_zero (h : isNameStart c = false) (cs : List Char) :
    nameLength (c :: cs) = 0 := by
  simp [nameLength, h]

theorem keywordLength_eq_zero {cs : List Char} (h : nameLength cs = 0) :
    keywordLength cs = 0 := by
  simp [keywordLength, h]

end

/-- Does the character start neither white space nor a selector, text or
    numeral? -/
structure IsBare (c : Char) : Prop where
  blank : isBlank c = false
  selector : c ≠ '%'
  quote : ¬ (c = singleQuote ∨ c = doubleQuote)
  digit : isDigit c = false
  minus : c ≠ '-'

theorem isBare_of_isNameStart {c : Char} (h : isNameStart c = true) : IsBare c := by
  obtain ⟨percent, single, double, minus, -⟩ := ne_of_isNameStart h
  exact ⟨isBlank_of_isNameStart h, percent, not_or.2 ⟨single, double⟩,
    isDigit_of_isNameStart h, minus⟩

theorem IsBare.scanHead {c : Char} (h : IsBare c) (cs : List Char) :
    scanHead (c :: cs) =
      if ['.', '.'].isPrefixOf (c :: cs) then .lexeme (.operator .dotdot) 2
      else if 0 < propertyLength (c :: cs) then
        .lexeme (.property (slice cs (propertyLength (c :: cs) - 1))) (propertyLength (c :: cs))
      else if 0 < keywordLength (c :: cs) then
        .lexeme (.keyword (slice (c :: cs) (keywordLength (c :: cs) - 1)))
          (keywordLength (c :: cs))
      else if 0 < nameLength (c :: cs) then
        .lexeme ((reservedWord? (slice (c :: cs) (nameLength (c :: cs)))).getD
          (.identifier (slice (c :: cs) (nameLength (c :: cs))))) (nameLength (c :: cs))
      else match punctuationAt? (c :: cs) with
        | some (spelling, o) => .lexeme (.operator o) spelling.length
        | none => .nothing := by
  have whole := intLength_eq_zero h.digit h.minus cs
  unfold Stencil.scanHead
  rw [if_neg (length_takeWhile_isBlank h.blank cs), selectorAt?_eq_none h.selector]
  simp only
  rw [if_neg (by simp [textLength_eq_zero h.quote]), if_neg (by simp [floatLength_eq_zero whole]),
    if_neg (by simp [whole])]
  rfl

/-! ## Section 2: The next lexeme -/

theorem slice_append (cs rest : List Char) : slice (cs ++ rest) cs.length = String.ofList cs := by
  simp [slice]

theorem scanHead_word {w : String} {rest : List Char} (name : IsName w.toList)
    (ends : NameEnds w.toList rest) (other : StartsWithout (· = ':') rest) :
    scanHead (w.toList ++ rest) =
      .lexeme ((reservedWord? w).getD (.identifier w)) w.toList.length := by
  have noKeyword : ¬ 0 < keywordLength (w.toList ++ rest) := by
    rw [keywordLength_append name ends other]
    exact Nat.lt_irrefl 0
  have length := nameLength_append name ends
  have word : slice (w.toList ++ rest) w.toList.length = w := by
    rw [slice_append, String.ofList_toList]
  obtain ⟨c, body, start, shape⟩ := name.exists_start
  have noPoint : c ≠ '.' := (ne_of_isNameStart start).2.2.2.2
  have noRange : ¬ ['.', '.'].isPrefixOf (c :: (body ++ rest)) = true := by
    simp [List.isPrefixOf, noPoint.symm]
  have noProperty : ¬ 0 < propertyLength (c :: (body ++ rest)) := by
    simp [propertyLength_eq_zero noPoint]
  have positive : 0 < w.toList.length := name.length_pos
  rw [shape, List.cons_append] at noKeyword length word ⊢
  rw [shape] at positive
  -- in the order of the rules: a range, a property, a keyword and then a word
  rw [(isBare_of_isNameStart start).scanHead, if_neg noRange, if_neg noProperty, if_neg noKeyword,
    length, if_pos positive, word]

theorem scanHead_keyword {name : String} (h : IsName name.toList) (rest : List Char) :
    scanHead (name.toList ++ ':' :: rest) =
      .lexeme (.keyword name) (name.toList.length + 1) := by
  have length := keywordLength_colon h rest
  have word : slice (name.toList ++ ':' :: rest) name.toList.length = name := by
    rw [slice_append, String.ofList_toList]
  obtain ⟨c, body, start, shape⟩ := h.exists_start
  have noPoint : c ≠ '.' := (ne_of_isNameStart start).2.2.2.2
  have noRange : ¬ ['.', '.'].isPrefixOf (c :: (body ++ ':' :: rest)) = true := by
    simp [List.isPrefixOf, noPoint.symm]
  have noProperty : ¬ 0 < propertyLength (c :: (body ++ ':' :: rest)) := by
    simp [propertyLength_eq_zero noPoint]
  rw [shape, List.cons_append] at length word ⊢
  rw [(isBare_of_isNameStart start).scanHead, if_neg noRange, if_neg noProperty, length,
    if_pos (Nat.succ_pos _), Nat.add_sub_cancel, word]

theorem isBare_point : IsBare '.' :=
  ⟨by decide, by decide, by decide, by decide, by decide⟩

theorem scanHead_dotdot (rest : List Char) :
    scanHead ('.' :: '.' :: rest) = .lexeme (.operator .dotdot) 2 := by
  rw [isBare_point.scanHead, if_pos (by simp [List.isPrefixOf])]

theorem scanHead_property {name : String} {rest : List Char} (h : IsName name.toList)
    (ends : NameEnds name.toList rest) :
    scanHead ('.' :: (name.toList ++ rest)) =
      .lexeme (.property name) (name.toList.length + 1) := by
  have length := propertyLength_append h ends
  have word : slice (name.toList ++ rest) name.toList.length = name := by
    rw [slice_append, String.ofList_toList]
  obtain ⟨c, body, start, shape⟩ := h.exists_start
  have noPoint : c ≠ '.' := (ne_of_isNameStart start).2.2.2.2
  have noRange : ¬ ['.', '.'].isPrefixOf ('.' :: (name.toList ++ rest)) = true := by
    rw [shape]
    simp [List.isPrefixOf, noPoint.symm]
  rw [isBare_point.scanHead, if_neg noRange, length, if_pos (Nat.succ_pos _),
    Nat.add_sub_cancel, word]

theorem scanHead_text {q : Char} (quote : q = singleQuote ∨ q = doubleQuote) {s : String}
    (other : q ∉ s.toList) (rest : List Char) :
    scanHead (q :: (s.toList ++ q :: rest)) =
      .lexeme (.literal (.text s)) (s.toList.length + 2) := by
  have length := textLength_quoted quote other rest
  have inner : slice (s.toList ++ q :: rest) s.toList.length = s := by
    rw [slice_append, String.ofList_toList]
  have noBlank : isBlank q = false := by
    obtain rfl | rfl := quote <;> decide
  have noSelector : q ≠ '%' := by
    obtain rfl | rfl := quote <;> decide
  unfold scanHead
  rw [if_neg (length_takeWhile_isBlank noBlank _), selectorAt?_eq_none noSelector]
  simp only
  rw [length, if_pos (Nat.succ_pos _), List.drop_one, List.tail_cons, Nat.add_sub_cancel, inner]

section

variable {negative : Bool} {ds fs rest : List Char}

/-- The characters with which a numeral starts. -/
theorem exists_start_signed (hd : ∀ c ∈ ds, isDigit c = true) (hne : ds ≠ []) :
    ∃ c cs, (isDigit c = true ∨ c = '-') ∧ signed negative ds = c :: cs := by
  cases negative with
  | true => exact ⟨'-', ds, .inr rfl, rfl⟩
  | false =>
    cases ds with
    | nil => exact absurd rfl hne
    | cons d ds => exact ⟨d, ds, .inl (hd d List.mem_cons_self), rfl⟩

/-- A numeral starts neither white space nor a selector or text. -/
theorem start_of_numeral {c : Char} (h : isDigit c = true ∨ c = '-') :
    isBlank c = false ∧ c ≠ '%' ∧ ¬ (c = singleQuote ∨ c = doubleQuote) := by
  obtain digit | rfl := h
  · refine ⟨isBlank_of_isDigit digit, ?_, ?_⟩
    · rintro rfl
      exact absurd digit (by decide)
    · rintro (rfl | rfl)
      · exact absurd digit (by decide)
      · exact absurd digit (by decide)
  · decide

theorem scanHead_float (hd : ∀ c ∈ ds, isDigit c = true) (hne : ds ≠ [])
    (hf : ∀ c ∈ fs, isDigit c = true) (fne : fs ≠ []) (ends : StartsWithout isDigit rest) :
    scanHead (signed negative (ds ++ '.' :: fs) ++ rest) =
      .lexeme (.literal (.float (.ofDecimal negative (ofDigits ((ds ++ fs).map plainDigit))
        (-(fs.length : Int))))) (signed negative (ds ++ '.' :: fs)).length := by
  have length : floatLength (signed negative (ds ++ '.' :: fs) ++ rest) =
      (signed negative (ds ++ '.' :: fs)).length := floatLength_signed hd hne hf fne ends
  have numeral : slice (signed negative (ds ++ '.' :: fs) ++ rest)
      (signed negative (ds ++ '.' :: fs)).length =
        String.ofList (signed negative (ds ++ '.' :: fs)) := slice_append _ _
  have positive : 0 < (signed negative (ds ++ '.' :: fs)).length := length_signed_pos (by simp)
  obtain ⟨c, cs, start, shape⟩ := @exists_start_signed negative ds hd hne
  obtain ⟨blank, percent, quote⟩ := start_of_numeral start
  have whole : signed negative (ds ++ '.' :: fs) ++ rest = c :: (cs ++ '.' :: fs ++ rest) := by
    rw [signed_append, shape]
    simp
  -- nothing but a numeral starts with a digit or a sign
  unfold scanHead
  rw [length, numeral, readDecimal_signed negative hd hf hne, whole,
    if_neg (length_takeWhile_isBlank blank _), selectorAt?_eq_none percent]
  simp only
  rw [if_neg (by simp [textLength_eq_zero quote]), if_pos positive]
  rfl

theorem scanHead_int (hd : ∀ c ∈ ds, isDigit c = true) (hne : ds ≠ [])
    (short : ds.length ≤ maxDigits) (ends : StartsWithout isDigit rest)
    (noFraction : ∀ fs, rest = '.' :: fs → StartsWithout isDigit fs) :
    scanHead (signed negative ds ++ rest) =
      .lexeme (.literal (.int (if negative then -(ofDigits (ds.map plainDigit) : Int)
        else ofDigits (ds.map plainDigit)))) (signed negative ds).length := by
  have noFloat : floatLength (signed negative ds ++ rest) = 0 :=
    floatLength_int hd hne ends noFraction
  have length : intLength (signed negative ds ++ rest) = (signed negative ds).length :=
    intLength_signed hd hne ends
  have numeral : slice (signed negative ds ++ rest) (signed negative ds).length =
      String.ofList (signed negative ds) := slice_append _ _
  have positive : 0 < (signed negative ds).length := length_signed_pos hne
  obtain ⟨c, cs, start, shape⟩ := @exists_start_signed negative ds hd hne
  obtain ⟨blank, percent, quote⟩ := start_of_numeral start
  have whole : signed negative ds ++ rest = c :: (cs ++ rest) := by
    rw [shape]
    rfl
  -- it is no decimal, since no fraction follows
  unfold scanHead
  rw [length, numeral, readInt_signed negative hd hne, if_neg (Nat.not_lt.2 short), noFloat, whole,
    if_neg (length_takeWhile_isBlank blank _), selectorAt?_eq_none percent]
  simp only
  rw [if_neg (by simp [textLength_eq_zero quote]), if_neg (Nat.lt_irrefl 0), if_pos positive]
  rfl

end

/-- Punctuation starts with a character of its own. -/
theorem start_of_punctuation : ∀ p ∈ punctuation, p.2 ≠ .dot →
    ∃ c cs, p.1.toList = c :: cs ∧ IsBare c ∧ c ≠ '.' ∧ isNameStart c = false := by
  -- as one Boolean for each spelling, so that only spellings are computed
  have all : ∀ p ∈ punctuation, p.2 ≠ .dot → p.1.toList.head?.any (fun c =>
      !isBlank c && c != '%' && c != singleQuote && c != doubleQuote && !isDigit c &&
        c != '-' && c != '.' && !isNameStart c) = true := by
    decide +kernel
  intro p hp other
  obtain ⟨c, head, bare⟩ := (Option.any_eq_true _ _).1 (all p hp other)
  obtain ⟨cs, shape⟩ := List.head?_eq_some_iff.1 head
  simp only [Bool.and_eq_true, Bool.not_eq_true', bne_iff_ne, ne_eq] at bare
  obtain ⟨⟨⟨⟨⟨⟨⟨blank, percent⟩, single⟩, double⟩, digit⟩, minus⟩, point⟩, name⟩ := bare
  exact ⟨c, cs, shape, ⟨blank, percent, not_or.2 ⟨single, double⟩, digit, minus⟩, point, name⟩

theorem length_punctuation : ∀ p ∈ punctuation,
    0 < p.1.toList.length ∧ p.1.toList.length ≤ 2 := by
  decide +kernel

/-- No punctuation is hidden behind a shorter one. -/
theorem punctuation_pairwise :
    punctuation.Pairwise fun p q => ¬ p.1.toList <+: q.1.toList := by
  decide +kernel

theorem punctuationAt?_append {spelling : String} {o : Operator}
    (h : (spelling, o) ∈ punctuation) {rest : List Char}
    (longest : ∀ c ∈ rest.head?, ∀ p ∈ punctuation, p.1 ≠ spelling.push c) :
    punctuationAt? (spelling.toList ++ rest) = some (spelling, o) := by
  obtain ⟨before, behind, split⟩ := List.append_of_mem h
  have apart := punctuation_pairwise
  rw [split, List.pairwise_append] at apart
  unfold punctuationAt?
  rw [List.find?_eq_some_iff_append]
  refine ⟨by simp, before, behind, split, fun p hp => ?_⟩
  have notPrefix : ¬ p.1.toList <+: spelling.toList := apart.2.2 p hp _ List.mem_cons_self
  have listed : p ∈ punctuation := by
    rw [split]
    exact List.mem_append_left _ hp
  rw [Bool.not_eq_true', ← Bool.not_eq_true, List.isPrefixOf_iff_prefix]
  intro found
  -- the other spelling goes on behind this one, so by one character
  rcases List.prefix_or_prefix_of_prefix found (List.prefix_append spelling.toList rest) with
    short | ⟨more, long⟩
  · exact notPrefix short
  obtain ⟨c, rfl⟩ : ∃ c, more = [c] := by
    have most : p.1.toList.length ≤ 2 := (length_punctuation p listed).2
    have least : 0 < spelling.toList.length := (length_punctuation _ h).1
    have sum := congrArg List.length long
    rw [List.length_append] at sum
    match more with
    | [] => exact absurd ⟨[], by rw [List.append_nil, ← long, List.append_nil]⟩ notPrefix
    | [c] => exact ⟨c, rfl⟩
    | _ :: _ :: more =>
      simp only [List.length_cons] at sum
      omega
  have next : [c] <+: rest := by
    rw [← long] at found
    exact (List.prefix_append_right_inj _).1 found
  obtain ⟨others, rfl⟩ := next
  refine longest c rfl p listed ?_
  rw [← String.toList_inj, ← long, String.toList_push]

theorem scanHead_punctuation {spelling : String} {o : Operator}
    (h : (spelling, o) ∈ punctuation) (other : o ≠ .dot) {rest : List Char}
    (longest : ∀ c ∈ rest.head?, ∀ p ∈ punctuation, p.1 ≠ spelling.push c) :
    scanHead (spelling.toList ++ rest) = .lexeme (.operator o) spelling.toList.length := by
  have found := punctuationAt?_append h longest
  obtain ⟨c, cs, shape, bare, point, name⟩ := start_of_punctuation _ h other
  rw [shape, List.cons_append] at found ⊢
  have noName := nameLength_eq_zero name (cs ++ rest)
  have noRange : ¬ ['.', '.'].isPrefixOf (c :: (cs ++ rest)) = true := by
    simp [List.isPrefixOf, point.symm]
  rw [bare.scanHead, if_neg noRange, if_neg (by simp [propertyLength_eq_zero point]),
    if_neg (by simp [keywordLength_eq_zero noName]), if_neg (by simp [noName]), found, ← shape]
  rfl

/-- Scanning reads a written lexeme back. -/
theorem Lexeme.Written.scanHead {l : Lexeme} {cs rest : List Char} (h : l.Written rest cs) :
    Stencil.scanHead (cs ++ rest) = .lexeme l cs.length := by
  cases h with
  | word name ends other reserved => rw [scanHead_word name ends other, reserved]
  | keyword name =>
    rw [List.append_assoc, List.singleton_append, scanHead_keyword name, List.length_append]
    rfl
  | property name ends =>
    rw [List.cons_append, scanHead_property name ends, List.length_cons]
  | text quote other =>
    rw [List.cons_append, List.append_assoc, List.singleton_append, scanHead_text quote other]
    simp
  | int hne hd short ends noFraction => exact scanHead_int hd hne short ends noFraction
  | float hne fne hd hf ends => exact scanHead_float hd hne hf fne ends
  | dotdot => exact scanHead_dotdot rest
  | punctuation listed other longest => exact scanHead_punctuation listed other longest

theorem Lexeme.Written.length_pos {l : Lexeme} {cs rest : List Char} (h : l.Written rest cs) :
    0 < cs.length := by
  cases h with
  | word name => exact name.length_pos
  | keyword name => simp
  | property name => simp
  | text => simp
  | int hne => exact length_signed_pos hne
  | float => exact length_signed_pos (by simp)
  | dotdot => exact Nat.succ_pos 1
  | punctuation listed => exact (length_punctuation _ listed).1

/-! ## Section 3: All lexemes -/

/-- Characters that belong to a lexeme in front are passed over. -/
theorem scanFrom_append (source : String) (start : Nat) (cs rest : List Char) :
    scanFrom source start cs.length (cs ++ rest) =
      scanFrom source (start + cs.length) 0 rest := by
  induction cs generalizing start with
  | nil => rfl
  | cons c cs ih =>
    rw [List.cons_append, List.length_cons, scanFrom, ih, Nat.add_assoc, Nat.add_comm 1]

/-- A lexeme that stands in front is read, and then what is behind it. -/
theorem scanFrom_of_scanHead {source : String} {start : Nat} {l : Lexeme} {cs rest : List Char}
    (scanned : scanHead (cs ++ rest) = .lexeme l cs.length) (positive : 0 < cs.length)
    {tokens : List Token} (later : scanFrom source (start + cs.length) 0 rest = .ok tokens) :
    scanFrom source start 0 (cs ++ rest) = .ok (⟨l, start, String.ofList cs⟩ :: tokens) := by
  have text : slice (cs ++ rest) cs.length = String.ofList cs := slice_append cs rest
  cases cs with
  | nil => cases positive
  | cons c cs =>
    rw [List.cons_append] at scanned text ⊢
    rw [scanFrom, scanned]
    simp only [List.length_cons, Nat.add_sub_cancel]
    rw [scanFrom_append, Nat.add_assoc, Nat.add_comm 1]
    rw [List.length_cons] at later text
    rw [later, text]
    rfl

theorem scanFrom_lexeme {source : String} {start : Nat} {l : Lexeme} {cs rest : List Char}
    (h : l.Written rest cs) {tokens : List Token}
    (later : scanFrom source (start + cs.length) 0 rest = .ok tokens) :
    ∃ token, token.lexeme = l ∧
      scanFrom source start 0 (cs ++ rest) = .ok (token :: tokens) :=
  ⟨_, rfl, scanFrom_of_scanHead h.scanHead h.length_pos later⟩

theorem scanHead_blank {c : Char} (h : isBlank c = true) (cs : List Char) :
    scanHead (c :: cs) = .blank ((cs.takeWhile isBlank).length + 1) := by
  unfold scanHead
  rw [List.takeWhile_cons_of_pos h, List.length_cons, if_pos (Nat.succ_pos _)]

/-- A blank is dropped, whether alone or with others behind it. -/
theorem scanFrom_blank {c : Char} (h : isBlank c = true) (source : String) (start : Nat)
    (cs : List Char) :
    scanFrom source start 0 (c :: cs) = scanFrom source (start + 1) 0 cs := by
  rw [scanFrom, scanHead_blank h]
  simp only [Nat.add_sub_cancel]
  cases cs with
  | nil => rfl
  | cons d cs =>
    cases blank : isBlank d with
    | false => rw [List.takeWhile_cons_of_neg (by simp [blank]), List.length_nil]
    | true =>
      rw [List.takeWhile_cons_of_pos blank, List.length_cons, scanFrom, scanFrom,
        scanHead_blank blank]
      rfl

theorem scanFrom_written {ls : List Lexeme} {cs : List Char} (h : Written ls cs)
    (source : String) (start : Nat) :
    ∃ tokens, scanFrom source start 0 cs = .ok tokens ∧ tokens.map Token.lexeme = ls := by
  induction h generalizing start with
  | nil => exact ⟨[], rfl, rfl⟩
  | blank space _ ih =>
    rw [scanFrom_blank space]
    exact ih (start + 1)
  | @lexeme l ls cs rest written _ ih =>
    obtain ⟨tokens, later, same⟩ := ih (start + cs.length)
    obtain ⟨token, first, scanned⟩ := scanFrom_lexeme written later
    refine ⟨token :: tokens, scanned, ?_⟩
    rw [List.map_cons, first, same]

/-- Scanning reads written lexemes back. -/
theorem scan_written {ls : List Lexeme} {source : String} (h : Written ls source.toList) :
    ∃ tokens, scan source = .ok tokens ∧ tokens.map Token.lexeme = ls :=
  scanFrom_written h source 0

end Stencil
