import Stencil.Proofs.Token.Sound
import Stencil.Proofs.Value.Outcome

/-! # How tokens lie in their source

    The tokens of a source are pieces of it, one behind the other, and what
    is left between them is white space.  How much white space that is does
    not matter, and neither does what has stood behind a lexeme directly:
    with any white space between neighbours, the same lexemes are read
    again. -/

namespace Stencil

open Text

/-! ## Section 1: Lexemes in front of white space -/

/-- A written lexeme is also written when nothing stands behind it. -/
theorem Lexeme.Written.alone {l : Lexeme} {cs rest : List Char} (h : l.Written rest cs) :
    l.Written [] cs := by
  cases h with
  | word name _ _ reserved =>
    exact .word name (.inr (startsWithout_nil _)) (startsWithout_nil _) reserved
  | keyword name => exact .keyword name
  | property name _ => exact .property name (.inr (startsWithout_nil _))
  | text quote other => exact .text quote other
  | int some_digit digits short _ _ =>
    exact .int some_digit digits short (startsWithout_nil _) nofun
  | float some_digit some_fraction digits fraction _ =>
    exact .float some_digit some_fraction digits fraction (startsWithout_nil _)
  | dotdot => exact .dotdot
  | punctuation listed other _ => exact .punctuation listed other nofun

section

variable {more : List Char} (apart : StartsApart more)
include apart

/-- A point by itself is read in front of white space. -/
theorem scanHead_point : scanHead ('.' :: more) = .lexeme (.operator .dot) 1 := by
  have noName : nameLength more = 0 := by
    cases more with
    | nil => rfl
    | cons c more =>
      refine nameLength_eq_zero ?_ more
      rcases apart c rfl with space | rfl
      · by_contra start
        rw [Bool.not_eq_false] at start
        rw [isBlank_of_isNameStart start] at space
        cases space
      · decide
  have noRange : ¬ ['.', '.'].isPrefixOf ('.' :: more) = true := by
    intro range
    obtain ⟨rest, shape⟩ := List.isPrefixOf_iff_prefix.1 range
    cases shape
    exact (apart_of_isBlank (apart '.' rfl)).2.2.2.2.1 rfl
  have noProperty : propertyLength ('.' :: more) = 0 := by
    rw [propertyLength, if_pos noName]
  have noWord : nameLength ('.' :: more) = 0 := nameLength_eq_zero (by decide) more
  have found : punctuationAt? ('.' :: more) = some (".", .dot) := rfl
  -- so all rules in front of the one for punctuation fail
  rw [isBare_point.scanHead, if_neg noRange, if_neg (by simp [noProperty]),
    if_neg (by simp [keywordLength_eq_zero noWord]), if_neg (by simp [noWord]), found]
  rfl

/-- Whatever has stood behind it, a lexeme is read from the same characters
    in front of white space. -/
theorem scanHead_behind {l : Lexeme} {text rest : List Char}
    (scanned : scanHead (text ++ rest) = .lexeme l text.length) :
    scanHead (text ++ more) = .lexeme l text.length := by
  -- a lexeme has a written form, but selectors and points by themselves have none
  by_cases plain : l.IsPlain
  · obtain ⟨text', rest', shape, length, written⟩ := heads_of_scanHead scanned plain
    obtain ⟨rfl, rfl⟩ := List.append_inj shape length
    have alone : l.Written ([] ++ more) text := written.alone.append apart
    exact alone.scanHead
  · obtain ⟨text', rest', shape, length, special⟩ := special_of_scanHead scanned plain
    obtain ⟨rfl, rfl⟩ := List.append_inj shape length
    rcases special with ⟨s, rfl, rfl⟩ | ⟨rfl, rfl⟩
    · rw [List.length_cons, String.length_toList]
      exact scanHead_selector apart s
    · exact scanHead_point apart

end

/-! ## Section 2: Where the tokens stand -/

namespace Laid

variable {start : Nat} {cs : List Char} {tokens : List Token}

theorem start_le (h : Laid start cs tokens) : ∀ t ∈ tokens, start ≤ t.start := by
  induction h with
  | nil => nofun
  | blank _ _ ih =>
    intro t ht
    exact Nat.le_of_succ_le (ih t ht)
  | token _ _ _ ih =>
    intro t ht
    rcases List.mem_cons.1 ht with rfl | later
    · exact Nat.le_refl _
    · exact Nat.le_trans (Nat.le_add_right _ _) (ih t later)

theorem length_pos (h : Laid start cs tokens) : ∀ t ∈ tokens, 0 < t.text.length := by
  induction h with
  | nil => nofun
  | blank _ _ ih => exact ih
  | token _ positive _ ih =>
    intro t ht
    rcases List.mem_cons.1 ht with rfl | later
    · rwa [String.length_ofList]
    · exact ih t later

/-- Each token ends before the next one starts. -/
theorem ordered (h : Laid start cs tokens) :
    tokens.Pairwise fun s t => s.start + s.text.length ≤ t.start := by
  induction h with
  | nil => exact .nil
  | blank _ _ ih => exact ih
  | token _ _ rest ih =>
    refine .cons ?_ ih
    intro t ht
    rw [String.length_ofList]
    exact rest.start_le t ht

/-- The text of a token is the piece of the source at its start.  `front` is
    the part of the source before the rest at hand. -/
theorem slice_eq (h : Laid start cs tokens) {front : List Char} (at_start : front.length = start) :
    ∀ t ∈ tokens, slice ((front ++ cs).drop t.start) t.text.length = t.text := by
  induction h generalizing front with
  | nil => nofun
  | @blank start c cs tokens _ _ ih =>
    have longer : (front ++ [c]).length = start + 1 := by simp [at_start]
    have same : front ++ c :: cs = front ++ [c] ++ cs := by simp
    rw [same]
    exact ih longer
  | @token start l text rest tokens _ _ _ ih =>
    have longer : (front ++ text).length = start + text.length := by simp [at_start]
    intro t ht
    rcases List.mem_cons.1 ht with rfl | later
    · show slice ((front ++ (text ++ rest)).drop start) (String.ofList text).length = _
      rw [← at_start, List.drop_left, String.length_ofList, slice_append]
    · rw [← List.append_assoc]
      exact ih longer t later

/-- Outside the tokens there is only white space. -/
theorem isBlank_outside (h : Laid start cs tokens) {i : Nat} {c : Char} (hc : cs[i]? = some c)
    (outside : ∀ t ∈ tokens, start + i < t.start ∨ t.start + t.text.length ≤ start + i) :
    isBlank c = true := by
  induction h generalizing i with
  | nil => cases hc
  | @blank start d cs tokens space _ ih =>
    cases i with
    | zero =>
      cases hc
      exact space
    | succ i =>
      refine ih hc ?_
      intro t ht
      have := outside t ht
      omega
  | @token start l text rest tokens _ _ _ ih =>
    obtain ⟨here, others⟩ := List.forall_mem_cons.1 outside
    -- not inside the first token, so behind it
    have behind : text.length ≤ i := by
      simp only [String.length_ofList] at here
      omega
    rw [List.getElem?_append_right behind] at hc
    refine ih hc ?_
    intro t ht
    have := others t ht
    omega

end Laid

/-- Do the tokens account for all of a source?  Each is the piece of the
    source at its start, each ends before the next one starts, all other
    characters are white space, and columns count from one. -/
structure AccountFor (tokens : List Token) (source : String) : Prop where
  slices : ∀ t ∈ tokens, slice (source.toList.drop t.start) t.text.length = t.text
  some_text : ∀ t ∈ tokens, 0 < t.text.length
  ordered : tokens.Pairwise fun s t => s.start + s.text.length ≤ t.start
  blank : ∀ (i : Nat) (c : Char), source.toList[i]? = some c →
    (∀ t ∈ tokens, i < t.start ∨ t.start + t.text.length ≤ i) → isBlank c = true
  columns : ∀ t ∈ tokens, t.col = t.start + 1

theorem Laid.accountFor {source : String} {tokens : List Token} (h : Laid 0 source.toList tokens) :
    AccountFor tokens source where
  slices := h.slice_eq (rfl : ([] : List Char).length = 0)
  some_text := h.length_pos
  ordered := h.ordered
  blank := by
    intro i c hc outside
    refine h.isBlank_outside hc ?_
    rwa [Nat.zero_add]
  columns := fun _ _ => rfl

/-! ## Section 3: Other white space -/

/-- The ways to write texts one behind the other with some white space
    between neighbours, and with white space or none in front and behind. -/
inductive Spread : List String → List Char → Prop
  | nil {blanks : List Char} : (∀ c ∈ blanks, isBlank c = true) → Spread [] blanks
  | last {text : String} {before after : List Char} : (∀ c ∈ before, isBlank c = true) →
      (∀ c ∈ after, isBlank c = true) → Spread [text] (before ++ (text.toList ++ after))
  | cons {text : String} {texts : List String} {before gap cs : List Char} :
      (∀ c ∈ before, isBlank c = true) → (∀ c ∈ gap, isBlank c = true) → gap ≠ [] →
      Spread texts cs → Spread (text :: texts) (before ++ (text.toList ++ (gap ++ cs)))

theorem scanFrom_blanks {blanks : List Char} (space : ∀ c ∈ blanks, isBlank c = true)
    (source : String) (start : Nat) (cs : List Char) :
    scanFrom source start 0 (blanks ++ cs) = scanFrom source (start + blanks.length) 0 cs := by
  induction blanks generalizing start with
  | nil => rfl
  | cons c blanks ih =>
    obtain ⟨here, later⟩ := List.forall_mem_cons.1 space
    rw [List.cons_append, scanFrom_blank here, ih later, List.length_cons, Nat.add_assoc,
      Nat.add_comm 1]

/-- What a token says, and the text it is read from. -/
def Token.content (t : Token) : Lexeme × String :=
  (t.lexeme, t.text)

/-- Is a token read from its text in front of white space? -/
def Token.Stands (t : Token) : Prop :=
  0 < t.text.length ∧ ∀ more, StartsApart more →
    scanHead (t.text.toList ++ more) = .lexeme t.lexeme t.text.length

theorem Laid.stands {start : Nat} {cs : List Char} {tokens : List Token}
    (h : Laid start cs tokens) : ∀ t ∈ tokens, t.Stands := by
  induction h with
  | nil => nofun
  | blank _ _ ih => exact ih
  | @token start l text rest tokens scanned positive _ ih =>
    intro t ht
    rcases List.mem_cons.1 ht with rfl | later
    · refine ⟨by rwa [String.length_ofList], fun more apart => ?_⟩
      rw [String.toList_ofList, String.length_ofList]
      exact scanHead_behind apart scanned
    · exact ih t later

/-- A token in front of white space is scanned, and then what is behind. -/
theorem Token.Stands.scanFrom {t : Token} (h : t.Stands) {source : String} {start : Nat}
    {more : List Char} (apart : StartsApart more) {tokens : List Token}
    (later : scanFrom source (start + t.text.toList.length) 0 more = .ok tokens) :
    Stencil.scanFrom source start 0 (t.text.toList ++ more) =
      .ok (⟨t.lexeme, start, t.text⟩ :: tokens) := by
  have scanned := h.2 more apart
  rw [← String.length_toList] at scanned
  have positive : 0 < t.text.toList.length := by
    rw [String.length_toList]
    exact h.1
  rw [scanFrom_of_scanHead scanned positive later, String.ofList_toList]

/-- Tokens whose texts are spread are scanned with the same content. -/
theorem scanFrom_spread {texts : List String} {cs : List Char} (spread : Spread texts cs)
    {tokens : List Token} (same : tokens.map Token.text = texts) (stand : ∀ t ∈ tokens, t.Stands)
    (source : String) (start : Nat) :
    ∃ others, scanFrom source start 0 cs = .ok others ∧
      others.map Token.content = tokens.map Token.content := by
  induction spread generalizing tokens start with
  | @nil blanks space =>
    obtain rfl : tokens = [] := List.map_eq_nil_iff.1 same
    have none := scanFrom_blanks space source start []
    rw [List.append_nil] at none
    exact ⟨[], none, rfl⟩
  | @last text before after front behind =>
    obtain ⟨t, rfl, rfl⟩ := List.map_eq_singleton_iff.1 same
    have here : t.Stands := stand t List.mem_cons_self
    have none := scanFrom_blanks behind source (start + before.length + t.text.toList.length) []
    rw [List.append_nil] at none
    rw [scanFrom_blanks front]
    have apart : StartsApart (after ++ []) := startsApart_blanks behind nofun
    rw [List.append_nil] at apart
    exact ⟨_, here.scanFrom apart none, rfl⟩
  | @cons text texts before gap cs front between some_gap _ ih =>
    obtain ⟨t, tokens, rfl, rfl, later⟩ := List.map_eq_cons_iff.1 same
    obtain ⟨here, rest⟩ := List.forall_mem_cons.1 stand
    -- the gap keeps the other texts away from this one, whatever they start with
    obtain ⟨others, scanned, contents⟩ := ih later rest
      (start + before.length + t.text.toList.length + gap.length)
    have apart : StartsApart (gap ++ cs) :=
      startsApart_blanks between fun none => absurd none some_gap
    rw [← scanFrom_blanks between] at scanned
    rw [scanFrom_blanks front]
    refine ⟨_, here.scanFrom apart scanned, ?_⟩
    rw [List.map_cons, List.map_cons, contents]
    rfl

/-- The terminal and the datum of a token are part of its content. -/
theorem Token.eq_of_content {ts us : List Token}
    (h : ts.map Token.content = us.map Token.content) :
    ts.map Token.terminal = us.map Token.terminal ∧ ts.map Token.value = us.map Token.value := by
  have terminals := congrArg (List.map fun p : Lexeme × String => p.1.terminal) h
  have values := congrArg (List.map fun p : Lexeme × String => (⟨p.1, 0, p.2⟩ : Token).value) h
  rw [List.map_map, List.map_map] at terminals values
  exact ⟨terminals, values⟩

/-! ## Section 4: Whole sources -/

/-- The tokens of a source account for all of it.  Their texts with any white
    space between neighbours, and with or without it in front and behind,
    are a source with tokens of the same terminals and the same data, in the
    same order. -/
theorem scan_accounts {source : String} {tokens : List Token} (h : scan source = .ok tokens) :
    AccountFor tokens source ∧
      ∀ spaced : String, Spread (tokens.map Token.text) spaced.toList →
        ∃ others, scan spaced = .ok others ∧
          others.map Token.terminal = tokens.map Token.terminal ∧
          others.map Token.value = tokens.map Token.value := by
  have laid : Laid 0 source.toList tokens := laid_of_scanFrom h
  refine ⟨laid.accountFor, ?_⟩
  intro spaced spread
  obtain ⟨others, scanned, contents⟩ := scanFrom_spread spread rfl laid.stands spaced 0
  exact ⟨others, scanned, Token.eq_of_content contents⟩

/-- A property, a point by itself and a range, without any white space. -/
def denseSource : String := "x.y.1..2"

/-- The tokens of the dense source. -/
def denseTokens : List Token :=
  [⟨.identifier "x", 0, "x"⟩, ⟨.property "y", 1, ".y"⟩, ⟨.operator .dot, 3, "."⟩,
    ⟨.literal (.int 1), 4, "1"⟩, ⟨.operator .dotdot, 5, ".."⟩, ⟨.literal (.int 2), 7, "2"⟩]

/-- White space may come between the point and the numeral, but not between
    the points of the range. -/
theorem denseSource_accounts : scan denseSource = .ok denseTokens ∧
    AccountFor denseTokens denseSource ∧
    Spread (denseTokens.map Token.text) "\tx .y . 1\n.. 2 ".toList ∧
    ∃ others, scan "\tx .y . 1\n.. 2 " = .ok others ∧
      others.map Token.terminal = denseTokens.map Token.terminal ∧
      others.map Token.value = denseTokens.map Token.value := by
  have scanned : scan denseSource = .ok denseTokens := toOption_eq_some.1 (by decide +kernel)
  have blank (c : Char) (h : isBlank c = true) : ∀ d ∈ [c], isBlank d = true := by
    intro d here
    rwa [List.mem_singleton.1 here]
  have none : ∀ c ∈ ([] : List Char), isBlank c = true := List.forall_mem_nil _
  have space := blank ' ' rfl
  have spread : Spread (denseTokens.map Token.text) "\tx .y . 1\n.. 2 ".toList :=
    .cons (blank '\t' rfl) space nofun (.cons none space nofun (.cons none space nofun
      (.cons none (blank '\n' rfl) nofun (.cons none space nofun (.last none space)))))
  obtain ⟨covered, respaced⟩ := scan_accounts scanned
  exact ⟨scanned, covered, spread, respaced _ spread⟩

end Stencil
