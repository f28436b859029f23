import Mathlib.Tactic.ByContra
import Stencil.Proofs.Token.Rescan

/-! # What is scanned was written

    Scanning reads written lexemes back, and the other way round whatever is
    scanned was written: each rule of the scanner takes a lexeme that ends
    where the rule says.  Only selectors and a point by itself are written
    in no way of their own.  So a source that is scanned may be followed by
    white space or a comma and by anything that can be written: the scan of
    both is the scan of one, and then of the other. -/

namespace Stencil

open Text Numeral

/-- Is this neither a selector nor a point by itself? -/
def Lexeme.IsPlain : Lexeme → Prop
  | .selector _ => False
  | .operator o => o ≠ .dot
  | _ => True

/-! ## Section 1: What the rules take -/

/-- The longest run of characters in front. -/
theorem exists_run (p : Char → Bool) (cs : List Char) :
    ∃ run behind, cs = run ++ behind ∧ cs.takeWhile p = run ∧ (∀ c ∈ run, p c = true) ∧
      StartsWithout p behind := by
  refine ⟨cs.takeWhile p, cs.dropWhile p, List.takeWhile_append_dropWhile.symm, rfl, ?_, ?_⟩
  · exact fun c hc => List.all_eq_true.1 List.all_takeWhile c hc
  · intro c hc
    have others := List.head?_dropWhile_not p cs
    rw [Option.mem_def.1 hc] at others
    simpa using others

theorem exists_name {cs : List Char} (h : 0 < nameLength cs) :
    ∃ text rest, cs = text ++ rest ∧ nameLength cs = text.length ∧ IsName text ∧
      NameEnds text rest := by
  cases cs with
  | nil => cases h
  | cons c cs =>
    have start : isNameStart c = true := by
      by_contra other
      rw [nameLength_eq_zero (Bool.eq_false_iff.2 other)] at h
      cases h
    obtain ⟨body, behind, rfl, taken, parts, ends⟩ := exists_run isNamePart cs
    rw [nameLength, if_pos start]
    simp only [taken, List.drop_left]
    by_cases question : behind.head? = some '?'
    · -- a question mark ends the name
      obtain ⟨rest, rfl⟩ := List.head?_eq_some_iff.1 question
      refine ⟨c :: (body ++ ['?']), rest, by simp, ?_, ⟨c, body, start, parts, .inr rfl⟩, .inl ?_⟩
      · rw [if_pos question]
        simp
      · simp [List.getLast?_cons]
    · refine ⟨c :: body, behind, rfl, ?_, ⟨c, body, start, parts, .inl rfl⟩, .inr ?_⟩
      · rw [if_neg question]
        rfl
      · intro d hd
        have other : d ≠ '?' := by
          rintro rfl
          exact question hd
        simp [ends d hd, other]

theorem exists_text {cs : List Char} (h : 0 < textLength cs) :
    ∃ q body rest, (q = singleQuote ∨ q = doubleQuote) ∧ q ∉ body ∧
      cs = q :: (body ++ q :: rest) ∧ textLength cs = body.length + 2 := by
  cases cs with
  | nil => cases h
  | cons q cs =>
    have quote : q = singleQuote ∨ q = doubleQuote := by
      by_contra other
      rw [textLength_eq_zero other] at h
      cases h
    obtain ⟨body, behind, rfl, taken, inner, ends⟩ := exists_run (· ≠ q) cs
    rw [textLength, if_pos quote] at h ⊢
    simp only [taken] at h ⊢
    -- the text has a length only if its quotation mark comes again
    have closed : body.length < (body ++ behind).length := by
      by_contra unclosed
      rw [if_neg unclosed] at h
      cases h
    rw [if_pos closed]
    cases behind with
    | nil => simp at closed
    | cons d rest =>
      obtain rfl : d = q := by simpa using startsWithout_cons.1 ends
      exact ⟨d, body, rest, quote, fun inside => by simpa using inner d inside, rfl, rfl⟩

theorem exists_int {cs : List Char} (h : 0 < intLength cs) :
    ∃ negative ds rest, cs = signed negative ds ++ rest ∧
      intLength cs = (signed negative ds).length ∧ ds ≠ [] ∧ (∀ c ∈ ds, isDigit c = true) ∧
      StartsWithout isDigit rest := by
  unfold intLength at h ⊢
  -- with a sign and without one
  split at h
  next cs =>
    obtain ⟨ds, rest, rfl, taken, digits, ends⟩ := exists_run isDigit cs
    simp only [taken] at h ⊢
    have some_digit : ¬ ds.length = 0 := by
      intro none
      rw [if_pos none] at h
      cases h
    refine ⟨true, ds, rest, rfl, ?_, fun none => some_digit (by rw [none]; rfl), digits, ends⟩
    rw [if_neg some_digit]
    rfl
  next =>
    obtain ⟨ds, rest, rfl, taken, digits, ends⟩ := exists_run isDigit cs
    rw [taken] at h ⊢
    exact ⟨false, ds, rest, rfl, rfl, List.length_pos_iff.1 h, digits, ends⟩

theorem exists_float {cs : List Char} (h : 0 < floatLength cs) :
    ∃ negative ds fs rest, cs = signed negative (ds ++ '.' :: fs) ++ rest ∧
      floatLength cs = (signed negative (ds ++ '.' :: fs)).length ∧ ds ≠ [] ∧ fs ≠ [] ∧
      (∀ c ∈ ds, isDigit c = true) ∧ (∀ c ∈ fs, isDigit c = true) ∧
      StartsWithout isDigit rest := by
  -- the length tells of a point and of digits on either side of it
  have whole : 0 < intLength cs := by
    by_contra none
    rw [floatLength_eq_zero (Nat.eq_zero_of_not_pos none)] at h
    cases h
  obtain ⟨negative, ds, behind, rfl, length, some_digit, digits, -⟩ := exists_int whole
  unfold floatLength at h ⊢
  simp only [length, List.drop_left] at h ⊢
  split at h
  next cs =>
    obtain ⟨fs, rest, rfl, taken, fraction, ends⟩ := exists_run isDigit cs
    simp only [taken] at h ⊢
    by_cases none : (signed negative ds).length = 0 ∨ fs.length = 0
    · rw [if_pos none] at h
      cases h
    · refine ⟨negative, ds, fs, rest, ?_, ?_, some_digit, ?_, digits, fraction, ends⟩
      · rw [signed_append]
        simp
      · rw [if_neg none, signed_append, List.length_append, List.length_cons]
        omega
      · rintro rfl
        exact none (.inr rfl)
  next => cases h

/-- An integer that is no decimal has no fraction behind it. -/
theorem noFraction_of_floatLength {negative : Bool} {ds rest : List Char} (hne : ds ≠ [])
    (hd : ∀ c ∈ ds, isDigit c = true) (ends : StartsWithout isDigit rest)
    (h : floatLength (signed negative ds ++ rest) = 0) (fs : List Char) (point : rest = '.' :: fs) :
    StartsWithout isDigit fs := by
  subst point
  intro c hc
  by_contra digit
  obtain ⟨fs, rfl⟩ := List.head?_eq_some_iff.1 hc
  have positive : 0 < (signed negative ds).length := length_signed_pos hne
  unfold floatLength at h
  simp only [intLength_signed hd hne ends, List.drop_left,
    List.takeWhile_cons_of_pos (Bool.not_eq_false _ ▸ digit), List.length_cons] at h
  rw [if_neg (by omega)] at h
  omega

theorem punctuationAt?_sound {cs : List Char} {spelling : String} {o : Operator}
    (h : punctuationAt? cs = some (spelling, o)) :
    (spelling, o) ∈ punctuation ∧ ∃ rest, cs = spelling.toList ++ rest ∧
      ∀ c ∈ rest.head?, ∀ p ∈ punctuation, p.1 ≠ spelling.push c := by
  unfold punctuationAt? at h
  obtain ⟨found, before, behind, split, others⟩ := List.find?_eq_some_iff_append.1 h
  obtain ⟨rest, rfl⟩ := List.isPrefixOf_iff_prefix.1 found
  have apart := punctuation_pairwise
  refine ⟨List.mem_of_find?_eq_some h, rest, rfl, fun c hc p hp same => ?_⟩
  obtain ⟨rest, rfl⟩ := List.head?_eq_some_iff.1 hc
  have longer : p.1.toList = spelling.toList ++ [c] := by rw [same, String.toList_push]
  -- the longer spelling is tried before, and would have been found
  rw [split] at hp apart
  rcases List.mem_append.1 hp with early | late
  · have missed := others p early
    rw [Bool.not_eq_true', ← Bool.not_eq_true, List.isPrefixOf_iff_prefix, longer] at missed
    exact missed ⟨rest, by simp⟩
  · have here := (List.pairwise_append.1 apart).2.1
    rcases List.mem_cons.1 late with rfl | late
    · simpa using congrArg List.length longer
    · exact (List.pairwise_cons.1 here).1 p late ⟨[c], longer.symm⟩

/-! ## Section 2: The next lexeme -/

/-- Do the characters start with the lexeme, written so that it takes as many
    of them as told? -/
def Lexeme.Heads (l : Lexeme) (cs : List Char) (n : Nat) : Prop :=
  ∃ text rest, cs = text ++ rest ∧ n = text.length ∧ l.Written rest text

section

variable {cs : List Char} {l : Lexeme} {n : Nat}

theorem heads_text (h : 0 < textLength cs) :
    (Lexeme.literal (.text (slice (cs.drop 1) (textLength cs - 2)))).Heads cs (textLength cs) := by
  obtain ⟨q, body, rest, quote, other, rfl, length⟩ := exists_text h
  have inner : slice (body ++ q :: rest) body.length = String.ofList body := slice_append _ _
  have written := @Lexeme.Written.text rest (String.ofList body) q quote
    (by rwa [String.toList_ofList])
  rw [String.toList_ofList] at written
  rw [length, List.drop_one, List.tail_cons, Nat.add_sub_cancel, inner]
  exact ⟨_, rest, by simp, by simp, written⟩

theorem heads_float (h : 0 < floatLength cs)
    (read : numeralLexeme ((readDecimal (slice cs (floatLength cs))).map .float)
      (floatLength cs) = .lexeme l n) : l.Heads cs n := by
  obtain ⟨negative, ds, fs, rest, rfl, length, hne, fne, hd, hf, ends⟩ := exists_float h
  rw [length, slice_append, readDecimal_signed negative hd hf hne] at read
  cases read
  exact ⟨_, rest, rfl, rfl, .float hne fne hd hf ends⟩

theorem heads_int (noFloat : ¬ 0 < floatLength cs) (h : 0 < intLength cs)
    (read : numeralLexeme ((readInt (slice cs (intLength cs))).map .int)
      (intLength cs) = .lexeme l n) : l.Heads cs n := by
  obtain ⟨negative, ds, rest, rfl, length, hne, hd, ends⟩ := exists_int h
  rw [length, slice_append, readInt_signed negative hd hne] at read
  have noFraction := noFraction_of_floatLength hne hd ends (Nat.eq_zero_of_not_pos noFloat)
  by_cases long : maxDigits < ds.length
  · rw [if_pos long] at read
    cases read
  · rw [if_neg long] at read
    cases read
    exact ⟨_, rest, rfl, rfl, .int hne hd (Nat.not_lt.1 long) ends noFraction⟩

theorem heads_property (h : 0 < propertyLength cs) :
    (Lexeme.property (slice (cs.drop 1) (propertyLength cs - 1))).Heads cs (propertyLength cs) := by
  unfold propertyLength at h ⊢
  split at h
  next cs =>
    have named : 0 < nameLength cs := by
      by_contra none
      rw [if_pos (Nat.eq_zero_of_not_pos none)] at h
      cases h
    obtain ⟨text, rest, rfl, length, name, ends⟩ := exists_name named
    have written := @Lexeme.Written.property rest (String.ofList text)
      (by rwa [String.toList_ofList]) (by rwa [String.toList_ofList])
    rw [String.toList_ofList] at written
    rw [if_neg (Nat.ne_of_gt named), length, List.drop_one, List.tail_cons, Nat.add_sub_cancel,
      slice_append]
    exact ⟨_, rest, rfl, rfl, written⟩
  next => cases h

theorem heads_keyword (h : 0 < keywordLength cs) :
    (Lexeme.keyword (slice cs (keywordLength cs - 1))).Heads cs (keywordLength cs) := by
  unfold keywordLength at h ⊢
  by_cases found : 0 < nameLength cs ∧ (cs.drop (nameLength cs)).head? = some ':'
  · obtain ⟨named, colon⟩ := found
    obtain ⟨text, rest, rfl, length, name, -⟩ := exists_name named
    rw [length, List.drop_left] at colon
    obtain ⟨rest, rfl⟩ := List.head?_eq_some_iff.1 colon
    have written := @Lexeme.Written.keyword rest (String.ofList text)
      (by rwa [String.toList_ofList])
    rw [String.toList_ofList] at written
    simp only [length, List.drop_left, List.head?_cons, name.length_pos, and_self, if_true,
      Nat.add_sub_cancel, slice_append]
    exact ⟨_, rest, by simp, by simp, written⟩
  · simp only [if_neg found] at h
    cases h

theorem heads_word (noKeyword : ¬ 0 < keywordLength cs) (h : 0 < nameLength cs) :
    ((reservedWord? (slice cs (nameLength cs))).getD
      (.identifier (slice cs (nameLength cs)))).Heads cs (nameLength cs) := by
  obtain ⟨text, rest, rfl, length, name, ends⟩ := exists_name h
  -- with a colon behind it the name would be a keyword
  have noColon : StartsWithout (· = ':') rest := by
    intro c hc
    by_contra colon
    obtain rfl : c = ':' := by simpa using colon
    obtain ⟨rest, rfl⟩ := List.head?_eq_some_iff.1 hc
    rw [keywordLength_colon name] at noKeyword
    exact noKeyword (Nat.succ_pos _)
  have written := @Lexeme.Written.word rest (String.ofList text) _
    (by rwa [String.toList_ofList]) (by rwa [String.toList_ofList]) noColon rfl
  rw [String.toList_ofList] at written
  rw [length, slice_append]
  exact ⟨_, rest, rfl, rfl, written⟩

theorem heads_punctuation {spelling : String} {o : Operator}
    (h : punctuationAt? cs = some (spelling, o)) (other : o ≠ .dot) :
    (Lexeme.operator o).Heads cs spelling.length := by
  obtain ⟨listed, rest, rfl, longest⟩ := punctuationAt?_sound h
  exact ⟨_, rest, rfl, String.length_toList.symm, .punctuation listed other longest⟩

/-- Do the characters start with the lexeme, which is a selector or a point by
    itself? -/
def Lexeme.HeadsSpecially (l : Lexeme) (cs : List Char) (n : Nat) : Prop :=
  ∃ text rest, cs = text ++ rest ∧ n = text.length ∧
    ((∃ s, l = .selector s ∧ text = '%' :: s.word.toList) ∨ (l = .operator .dot ∧ text = ['.']))

theorem headsSpecially_selector {s : Selector} (found : selectorAt? cs = some s) :
    (Lexeme.selector s).HeadsSpecially cs (s.word.length + 1) := by
  have spelled := List.find?_some found
  simp only [Bool.and_eq_true] at spelled
  obtain ⟨rest, rfl⟩ := List.isPrefixOf_iff_prefix.1 spelled.1
  refine ⟨'%' :: s.word.toList, rest, rfl, ?_, .inl ⟨s, rfl, rfl⟩⟩
  rw [List.length_cons, String.length_toList]

theorem headsSpecially_dot {spelling : String} (found : punctuationAt? cs = some (spelling, .dot)) :
    (Lexeme.operator .dot).HeadsSpecially cs spelling.length := by
  have points : ∀ p ∈ punctuation, p.2 = .dot → p.1 = "." := by decide
  obtain ⟨listed, rest, rfl, -⟩ := punctuationAt?_sound found
  obtain rfl : spelling = "." := points _ listed rfl
  exact ⟨['.'], rest, rfl, rfl, .inr ⟨rfl, rfl⟩⟩

/-- What is scanned next stands in front, and was written unless it is a
    selector or a point. -/
theorem heads_or_headsSpecially (h : scanHead cs = .lexeme l n) :
    l.Heads cs n ∨ l.HeadsSpecially cs n := by
  unfold scanHead at h
  -- the rules in the order in which they are tried
  split at h
  · cases h
  split at h
  next selector =>
    cases h
    exact .inr (headsSpecially_selector selector)
  split at h
  next text =>
    cases h
    exact .inl (heads_text text)
  split at h
  next decimal => exact .inl (heads_float decimal h)
  next noFloat =>
    split at h
    next integer => exact .inl (heads_int noFloat integer h)
    split at h
    next range =>
      cases h
      obtain ⟨rest, rfl⟩ := List.isPrefixOf_iff_prefix.1 range
      exact .inl ⟨_, rest, rfl, rfl, .dotdot⟩
    split at h
    next property =>
      cases h
      exact .inl (heads_property property)
    split at h
    next keyword =>
      cases h
      exact .inl (heads_keyword keyword)
    next noKeyword =>
      split at h
      next name =>
        cases h
        exact .inl (heads_word noKeyword name)
      split at h
      next spelling o found =>
        cases h
        by_cases point : o = .dot
        · subst point
          exact .inr (headsSpecially_dot found)
        · exact .inl (heads_punctuation found point)
      next => cases h

theorem Lexeme.Written.isPlain {rest text : List Char} (h : l.Written rest text) : l.IsPlain := by
  cases h with
  | @word w _ _ _ _ told =>
    subst told
    unfold reservedWord?
    split <;> simp [Lexeme.IsPlain]
  | dotdot => exact nofun
  | punctuation _ other _ => exact other
  | _ => trivial

theorem Lexeme.HeadsSpecially.not_isPlain (h : l.HeadsSpecially cs n) : ¬ l.IsPlain := by
  obtain ⟨text, rest, -, -, ⟨s, rfl, -⟩ | ⟨rfl, -⟩⟩ := h
  · exact False.elim
  · exact fun other => other rfl

/-- What is scanned next, if it is plain, was written. -/
theorem heads_of_scanHead (h : scanHead cs = .lexeme l n) (plain : l.IsPlain) : l.Heads cs n :=
  (heads_or_headsSpecially h).resolve_right fun special => special.not_isPlain plain

/-- What is scanned next, unless it is plain, is a selector or a point by
    itself. -/
theorem special_of_scanHead (h : scanHead cs = .lexeme l n) (special : ¬ l.IsPlain) :
    l.HeadsSpecially cs n := by
  refine (heads_or_headsSpecially h).resolve_left ?_
  rintro ⟨text, rest, -, -, written⟩
  exact special written.isPlain

/-- What is scanned next is a piece in front of the source. -/
theorem exists_text_of_scanHead (h : scanHead cs = .lexeme l n) :
    ∃ text rest, cs = text ++ rest ∧ n = text.length ∧ 0 < text.length := by
  rcases heads_or_headsSpecially h with
    ⟨text, rest, shape, length, written⟩ | ⟨text, rest, shape, length, special⟩
  · exact ⟨text, rest, shape, length, written.length_pos⟩
  · refine ⟨text, rest, shape, length, ?_⟩
    rcases special with ⟨s, -, rfl⟩ | ⟨-, rfl⟩
    · exact Nat.succ_pos _
    · exact Nat.succ_pos 0

/-- White space is found only where a character of it stands. -/
theorem scanHead_ne_blank {c : Char} (h : isBlank c = false) (cs : List Char) (n : Nat) :
    scanHead (c :: cs) ≠ .blank n := by
  have numeral (value : Except Numeral.Fault Literal) (length : Nat) :
      numeralLexeme value length ≠ .blank n := by
    cases value <;> exact nofun
  unfold scanHead
  rw [if_neg (length_takeWhile_isBlank h cs)]
  repeat' split
  all_goals first
    | exact numeral _ _
    | exact nofun

end

/-! ## Section 3: Whole sources -/

/-- Is the rest of a source, which starts at a position, cut into white space
    and into lexemes that are read where they stand? -/
inductive Laid : Nat → List Char → List Token → Prop
  | nil {start : Nat} : Laid start [] []
  | blank {start : Nat} {c : Char} {cs : List Char} {tokens : List Token} : isBlank c = true →
      Laid (start + 1) cs tokens → Laid start (c :: cs) tokens
  | token {start : Nat} {l : Lexeme} {text rest : List Char} {tokens : List Token} :
      scanHead (text ++ rest) = .lexeme l text.length → 0 < text.length →
      Laid (start + text.length) rest tokens →
      Laid start (text ++ rest) (⟨l, start, String.ofList text⟩ :: tokens)

/-- What is scanned is cut into white space and lexemes. -/
theorem laid_of_scanFrom {source : String} {start : Nat} {cs : List Char} {tokens : List Token}
    (h : scanFrom source start 0 cs = .ok tokens) : Laid start cs tokens := by
  -- on how many characters are left: a lexeme is taken as a whole
  induction length : cs.length using Nat.strongRecOn generalizing cs start tokens with
  | ind n ih =>
  subst length
  cases cs with
  | nil =>
    cases h
    exact .nil
  | cons c cs =>
    by_cases blank : isBlank c = true
    · rw [scanFrom_blank blank] at h
      exact .blank blank (ih cs.length (Nat.lt_succ_self _) h rfl)
    · rw [scanFrom] at h
      cases scanned : scanHead (c :: cs) with
      | blank n => exact absurd scanned (scanHead_ne_blank (Bool.eq_false_iff.2 blank) cs n)
      | unreadable cause =>
        rw [scanned] at h
        cases h
      | nothing =>
        rw [scanned] at h
        cases h
      | lexeme l n =>
        rw [scanned] at h
        obtain ⟨tokens, later, rfl⟩ := eq_ok_of_bind_pure h
        obtain ⟨text, rest, shape, rfl, positive⟩ := exists_text_of_scanHead scanned
        have here : slice (c :: cs) text.length = String.ofList text := by
          rw [shape, slice_append]
        cases text with
        | nil => cases positive
        | cons d text =>
          rw [here]
          rw [shape] at scanned ⊢
          rw [List.cons_append] at shape
          obtain ⟨rfl, rfl⟩ := List.cons.inj shape
          rw [List.length_cons, Nat.add_sub_cancel, scanFrom_append, Nat.add_assoc,
            Nat.add_comm 1] at later
          have short : rest.length < (c :: (text ++ rest)).length := by
            rw [List.length_cons, List.length_append]
            omega
          exact .token scanned positive (ih rest.length short later rfl)

/-- Plain lexemes in which a source is cut were written. -/
theorem Laid.written {start : Nat} {cs : List Char} {tokens : List Token}
    (h : Laid start cs tokens) (plain : ∀ t ∈ tokens, t.lexeme.IsPlain) :
    Written (tokens.map Token.lexeme) cs := by
  induction h with
  | nil => exact .nil
  | blank space _ ih => exact .blank space (ih plain)
  | @token start l text rest tokens scanned _ _ ih =>
    obtain ⟨here, others⟩ := List.forall_mem_cons.1 plain
    obtain ⟨text', rest', shape, length, written⟩ := heads_of_scanHead scanned here
    obtain ⟨rfl, rfl⟩ := List.append_inj shape length
    exact .lexeme written (ih others)

/-- A source that is scanned to plain lexemes was written. -/
theorem written_of_scan {source : String} {tokens : List Token} (h : scan source = .ok tokens)
    (plain : ∀ t ∈ tokens, t.lexeme.IsPlain) :
    Written (tokens.map Token.lexeme) source.toList :=
  (laid_of_scanFrom h).written plain

/-! ## Section 4: One source behind another -/

/-- Do the characters start with white space or a comma, if with any? -/
def StartsApart (rest : List Char) : Prop :=
  ∀ c ∈ rest.head?, isBlank c = true ∨ c = ','

theorem startsApart_space (rest : List Char) : StartsApart (' ' :: rest) := by
  rintro c ⟨⟩
  exact .inl rfl

theorem startsApart_blanks {bs cs : List Char} (space : ∀ c ∈ bs, isBlank c = true)
    (apart : bs = [] → StartsApart cs) : StartsApart (bs ++ cs) := by
  cases bs with
  | nil => exact apart rfl
  | cons b bs =>
    rintro c ⟨⟩
    exact .inl (space b List.mem_cons_self)

/-- The codes of white space. -/
def blankCodes : List Nat :=
  [0x09, 0x0A, 0x0B, 0x0C, 0x0D, 0x1C, 0x1D, 0x1E, 0x1F, 0x20, 0x85, 0xA0, 0x1680, 0x2000, 0x2001,
    0x2002, 0x2003, 0x2004, 0x2005, 0x2006, 0x2007, 0x2008, 0x2009, 0x200A, 0x2028, 0x2029, 0x202F,
    0x205F, 0x3000]

theorem exists_blankCode {c : Char} (h : isBlank c = true) :
    ∃ n ∈ blankCodes, c = Char.ofNat n := by
  refine ⟨c.toNat, ?_, (Char.ofNat_toNat c).symm⟩
  simp only [isBlank, Bool.or_eq_true, Bool.and_eq_true, decide_eq_true_eq] at h
  simp only [blankCodes, List.mem_cons, List.not_mem_nil, or_false]
  omega

/-- White space and a comma go on with no lexeme. -/
theorem apart_of_isBlank {c : Char} (h : isBlank c = true ∨ c = ',') :
    isNamePart c = false ∧ isDigit c = false ∧ c ≠ '?' ∧ c ≠ ':' ∧ c ≠ '.' ∧
      ∀ p ∈ punctuation, c ∉ p.1.toList.drop 1 := by
  have blanks : ∀ n ∈ blankCodes, (isNamePart (Char.ofNat n) = false ∧
      isDigit (Char.ofNat n) = false ∧ Char.ofNat n ≠ '?' ∧ Char.ofNat n ≠ ':' ∧
      Char.ofNat n ≠ '.' ∧ ∀ p ∈ punctuation, Char.ofNat n ∉ p.1.toList.drop 1) := by
    decide +kernel
  rcases h with blank | rfl
  · obtain ⟨n, hn, rfl⟩ := exists_blankCode blank
    exact blanks n hn
  · decide +kernel

section

variable {rest more : List Char} (apart : StartsApart more)
include apart

/-- A selector in front of white space or a comma is scanned as such. -/
theorem scanHead_selector (s : Selector) :
    scanHead ('%' :: (s.word.toList ++ more)) = .lexeme (.selector s) (s.word.length + 1) := by
  have ends : more.head?.any isWord = false := by
    cases more with
    | nil => rfl
    | cons c more =>
      have part : isNamePart c = false := (apart_of_isBlank (apart c rfl)).1
      exact (Bool.or_eq_false_iff.1 part).1
  have found : selectorAt? ('%' :: (s.word.toList ++ more)) = some s := by
    rw [List.head?_eq_getElem?] at ends
    cases s <;> simp [selectorAt?, Selector.all, Selector.word, List.isPrefixOf, ends]
  unfold scanHead
  rw [if_neg (length_takeWhile_isBlank (by decide) _), found]

theorem StartsWithout.append {p : Char → Bool} (h : StartsWithout p rest)
    (other : ∀ c, isBlank c = true ∨ c = ',' → p c = false) : StartsWithout p (rest ++ more) := by
  cases rest with
  | nil => exact fun c hc => other c (apart c hc)
  | cons c rest => exact startsWithout_cons.2 (startsWithout_cons.1 h)

theorem NameEnds.append {cs : List Char} (h : NameEnds cs rest) : NameEnds cs (rest ++ more) := by
  refine h.imp_right fun ends => StartsWithout.append apart ends fun c hc => ?_
  obtain ⟨part, -, question, -⟩ := apart_of_isBlank hc
  simp [part, question]

/-- A written lexeme ends where it has ended with white space or a comma
    further behind. -/
theorem Lexeme.Written.append {l : Lexeme} {cs : List Char} (h : l.Written rest cs) :
    l.Written (rest ++ more) cs := by
  have digit (c : Char) (hc : isBlank c = true ∨ c = ',') : isDigit c = false :=
    (apart_of_isBlank hc).2.1
  cases h with
  | word name ends other reserved =>
    refine .word name (ends.append apart) (StartsWithout.append apart other fun c hc => ?_) reserved
    simpa using (apart_of_isBlank hc).2.2.2.1
  | keyword name => exact .keyword name
  | property name ends => exact .property name (ends.append apart)
  | text quote other => exact .text quote other
  | int hne hd short ends noFraction =>
    refine .int hne hd short (StartsWithout.append apart ends digit) fun fs point => ?_
    cases rest with
    | nil =>
      rw [List.nil_append] at point
      subst point
      exact absurd rfl (apart_of_isBlank (apart '.' rfl)).2.2.2.2.1
    | cons c rest =>
      cases point
      exact StartsWithout.append apart (noFraction rest rfl) digit
  | float hne fne hd hf ends =>
    exact .float hne fne hd hf (StartsWithout.append apart ends digit)
  | dotdot => exact .dotdot
  | @punctuation spelling o listed other longest =>
    refine .punctuation listed other fun c hc p hp same => ?_
    cases rest with
    | cons d rest => exact longest c hc p hp same
    | nil =>
      -- a longer spelling would have a blank or a comma behind its first character
      refine (apart_of_isBlank (apart c hc)).2.2.2.2.2 p hp ?_
      obtain ⟨d, spelled, shape⟩ := List.exists_cons_of_length_pos (length_punctuation _ listed).1
      rw [same, String.toList_push, shape]
      simp

end

/-- Lexemes that were written may be followed, behind white space or a comma,
    by others. -/
theorem Written.append {ls ms : List Lexeme} {cs more : List Char} (h : Written ls cs)
    (later : Written ms more) (apart : StartsApart more) : Written (ls ++ ms) (cs ++ more) := by
  induction h with
  | nil => exact later
  | blank space _ ih => exact .blank space ih
  | lexeme written _ ih =>
    rw [List.append_assoc]
    exact .lexeme (written.append apart) ih

/-- White space in front. -/
theorem Written.blanks {ls : List Lexeme} {bs cs : List Char} (space : ∀ c ∈ bs, isBlank c = true)
    (h : Written ls cs) : Written ls (bs ++ cs) := by
  induction bs with
  | nil => exact h
  | cons b bs ih =>
    obtain ⟨here, later⟩ := List.forall_mem_cons.1 space
    exact .blank here (ih later)

/-- A comma in front. -/
theorem Written.comma {ls : List Lexeme} {cs : List Char} (h : Written ls cs) :
    Written (.operator .comma :: ls) (',' :: cs) := by
  have short : ∀ p ∈ punctuation, p.1.toList.head? = some ',' → p.1.toList.length = 1 := by
    decide +kernel
  refine @Written.lexeme _ ls ",".toList cs (.punctuation (by decide) (by decide) ?_) h
  intro c _ p hp same
  have two := short p hp (by rw [same, String.toList_push]; rfl)
  rw [same, String.toList_push] at two
  simp at two

end Stencil
