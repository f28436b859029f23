import Stencil.Chunk.Segment
import Stencil.Proofs.Token.Written

/-! # What stands between delimiters

    How outputs, tags and end tags are written, without a search: opening
    and closing delimiters, each with a dash or none, and what is between
    them, in which the closing one is not met.  What the search for them
    finds is written so, and where it finds nothing, no delimiters open
    that are closed anywhere behind. -/

namespace Stencil

open Text

/-! ## Section 1: Searching forward -/

/-- Does `p` hold of the rest of a text at no character of `cs`, behind which
    `more` follows? -/
def NowhereIn (p : List Char → Prop) : List Char → List Char → Prop
  | [], _ => True
  | c :: cs, more => ¬ p (c :: cs ++ more) ∧ NowhereIn p cs more

section

variable {p q : List Char → Prop} {cs ds more : List Char}

theorem nowhereIn_append :
    NowhereIn p (cs ++ ds) more ↔ NowhereIn p cs (ds ++ more) ∧ NowhereIn p ds more := by
  induction cs with
  | nil => simp [NowhereIn]
  | cons c cs ih => simp [NowhereIn, ih, and_assoc]

theorem NowhereIn.mono {more' : List Char} (h : NowhereIn p cs more)
    (weaker : ∀ ds, q (ds ++ more') → p (ds ++ more)) : NowhereIn q cs more' := by
  induction cs with
  | nil => trivial
  | cons c cs ih => exact ⟨fun here => h.1 (weaker (c :: cs) here), ih h.2⟩

/-- A text at no character of which a piece begins does not hold the piece. -/
theorem NowhereIn.not_infix {piece : List Char} (h : NowhereIn p cs more)
    (begins : ∀ behind, p (piece ++ behind)) (some : piece ≠ []) : ¬ piece <:+: cs := by
  induction cs with
  | nil => simpa using some
  | cons c cs ih =>
    rw [List.infix_cons_iff]
    rintro (⟨behind, here⟩ | later)
    · apply h.1
      rw [← here, List.append_assoc]
      exact begins _
    · exact ih h.2 later

end

/-- What stands before the first closing delimiter, if there is one. -/
theorem beforeClose?_eq_some {close cs inner : List Char}
    (h : beforeClose? close cs = some inner) :
    ∃ more, cs = inner ++ (close ++ more) ∧ NowhereIn (close <+: ·) inner close := by
  induction cs generalizing inner with
  | nil => cases h
  | cons c cs ih =>
    rw [beforeClose?] at h
    by_cases here : close.isPrefixOf (c :: cs) = true
    · rw [if_pos here] at h
      cases h
      obtain ⟨more, same⟩ := List.isPrefixOf_iff_prefix.1 here
      exact ⟨more, same.symm, trivial⟩
    · rw [if_neg here] at h
      obtain ⟨later, found, rfl⟩ := Option.map_eq_some_iff.1 h
      obtain ⟨more, rfl, nowhere⟩ := ih found
      refine ⟨more, rfl, ?_, nowhere⟩
      -- a delimiter met earlier in `inner` and its own delimiter would have been found here
      intro early
      apply here
      rw [List.isPrefixOf_iff_prefix, ← List.cons_append, ← List.append_assoc]
      exact early.trans (List.prefix_append _ _)

theorem beforeClose?_eq_none {close cs : List Char} (nonempty : close ≠ [])
    (h : beforeClose? close cs = none) : ¬ close <:+: cs := by
  induction cs with
  | nil => simpa using nonempty
  | cons c cs ih =>
    rw [beforeClose?] at h
    by_cases here : close.isPrefixOf (c :: cs) = true
    · rw [if_pos here] at h
      cases h
    · rw [if_neg here, Option.map_eq_none_iff] at h
      rw [List.isPrefixOf_iff_prefix] at here
      rw [List.infix_cons_iff]
      exact not_or.2 ⟨here, ih h⟩

/-! ## Section 2: Dashes -/

/-- The dash of a delimiter that trims. -/
def dashIf (trims : Bool) : List Char :=
  if trims then ['-'] else []

@[simp] theorem length_dashIf (trims : Bool) : (dashIf trims).length = dashLength trims := by
  cases trims <;> rfl

theorem splitDash_eq (cs : List Char) : dashIf (splitDash cs).1 ++ (splitDash cs).2 = cs := by
  unfold splitDash
  split <;> rfl

theorem head?_of_splitDash {cs : List Char} (h : (splitDash cs).1 = false) :
    (splitDash cs).2.head? ≠ some '-' := by
  unfold splitDash at h ⊢
  split at h
  · cases h
  next other =>
    intro dash
    obtain ⟨more, rfl⟩ := List.head?_eq_some_iff.1 dash
    exact other more rfl

/-- A dash is split off whatever else does not begin with one. -/
theorem splitDash_dashIf {trims : Bool} {cs : List Char} (h : cs.head? ≠ some '-') :
    splitDash (dashIf trims ++ cs) = (trims, cs) := by
  cases trims with
  | true => rfl
  | false =>
    show splitDash cs = _
    unfold splitDash
    split
    · simp at h
    · rfl

theorem splitLastDash_eq (cs : List Char) :
    (splitLastDash cs).2 ++ dashIf (splitLastDash cs).1 = cs := by
  unfold splitLastDash
  split
  next last =>
    obtain ⟨front, rfl⟩ := List.getLast?_eq_some_iff.1 last
    simp [dashIf]
  next => simp [dashIf]

theorem getLast?_of_splitLastDash {cs : List Char} (h : (splitLastDash cs).1 = false) :
    (splitLastDash cs).2.getLast? ≠ some '-' := by
  unfold splitLastDash at h ⊢
  split
  next last => simp [last] at h
  next other => exact other

/-! ## Section 3: Outputs and tags -/

/-- The characters of a mark. -/
def Mark.chars (m : Mark) : List Char :=
  m.source.toList

/-- Is the mark written with these delimiters around `inner`, all its dashes
    being those of the delimiters, and the closing one being met only at its
    end? -/
structure Mark.Encloses (m : Mark) (opens closes inner : List Char) : Prop where
  chars : m.chars = opens ++ (dashIf m.trimLeft ++ (inner ++ (dashIf m.trimRight ++ closes)))
  left : m.trimLeft = false → (inner ++ dashIf m.trimRight).head? ≠ some '-'
  right : m.trimRight = false → inner.getLast? ≠ some '-'
  ends : NowhereIn (closes <+: ·) (inner ++ dashIf m.trimRight) closes

/-- Is the mark a whole output, its arguments standing between the delimiters
    with white space around them or none? -/
def Mark.IsOutput (m : Mark) : Prop :=
  ∃ inner, m.Encloses outputOpen outputClose inner ∧ m.args.toList = trim inner

/-- Is the mark a whole tag of the name?  Behind the opening delimiter stand
    white space or none, then all the word characters there are, which are
    the name, then the arguments. -/
def Mark.IsTag (name : String) (m : Mark) : Prop :=
  ∃ padding inner, m.Encloses tagOpen tagClose (padding ++ (name.toList ++ inner)) ∧
    (∀ c ∈ padding, isBlank c = true) ∧ (∀ c ∈ name.toList, isWord c = true) ∧
    StartsWithout isBlank (name.toList ++ inner) ∧ StartsWithout isWord inner ∧
    m.args.toList = trim inner

/-- Is the mark a whole output or a whole tag? -/
def Mark.IsWhole (m : Mark) : Prop :=
  m.IsOutput ∨ ∃ name, m.IsTag name

/-- Do delimiters open here that are closed somewhere behind? -/
def Opens (cs : List Char) : Prop :=
  (outputOpen <+: cs ∧ outputClose <:+: cs.drop 2) ∨ (tagOpen <+: cs ∧ tagClose <:+: cs.drop 2)

theorem Opens.append {cs : List Char} (h : Opens cs) (more : List Char) : Opens (cs ++ more) := by
  have further {opens closes : List Char} (two : opens.length = 2) (opened : opens <+: cs)
      (closed : closes <:+: cs.drop 2) :
      opens <+: cs ++ more ∧ closes <:+: (cs ++ more).drop 2 := by
    have long : 2 ≤ cs.length := two ▸ opened.length_le
    refine ⟨opened.trans (List.prefix_append _ _), ?_⟩
    rw [List.drop_append_of_le_length long]
    exact closed.trans (List.prefix_append _ _).isInfix
  rcases h with ⟨opened, closed⟩ | ⟨opened, closed⟩
  · exact .inl (further rfl opened closed)
  · exact .inr (further rfl opened closed)

/-! ## Section 4: What the search finds -/

theorem startsWithout_dropWhile (p : Char → Bool) (cs : List Char) :
    StartsWithout p (cs.dropWhile p) := by
  intro c hc
  have head := List.head?_dropWhile_not p cs
  rw [hc] at head
  exact head

theorem StartsWithout.left {p : Char → Bool} {cs ds : List Char} (h : StartsWithout p (cs ++ ds)) :
    StartsWithout p cs := by
  intro c hc
  apply h c
  rw [List.head?_append, hc]
  rfl

/-- What goes on with the closing delimiter of a tag, dashed or not, goes on
    with no character but a dash or a percent sign. -/
theorem StartsWithout.beforeTagClose {p : Char → Bool} {cs : List Char} (h : StartsWithout p cs)
    (dash : p '-' = false) (percent : p '%' = false) (trims : Bool) (more : List Char) :
    StartsWithout p (cs ++ (dashIf trims ++ (tagClose ++ more))) := by
  cases cs with
  | nil =>
    cases trims with
    | false => exact startsWithout_cons.2 percent
    | true => exact startsWithout_cons.2 dash
  | cons c cs => exact startsWithout_cons.2 (startsWithout_cons.1 h)

/-- No delimiters open where there is no opening brace. -/
theorem nowhereIn_opens {cs : List Char} (plain : '\x7b' ∉ cs) (more : List Char) :
    NowhereIn Opens cs more := by
  induction cs with
  | nil => trivial
  | cons c cs ih =>
    rw [List.mem_cons, not_or] at plain
    refine ⟨?_, ih plain.2⟩
    rintro (⟨opened, -⟩ | ⟨opened, -⟩)
    · exact plain.1 (List.cons_prefix_cons.1 opened).1
    · exact plain.1 (List.cons_prefix_cons.1 opened).1

/-- The closing delimiter of a tag is not met in padding and names. -/
theorem nowhereIn_tagClose {cs : List Char} (h : ∀ c ∈ cs, isBlank c = true ∨ isWord c = true)
    (more : List Char) : NowhereIn (tagClose <+: ·) cs more := by
  induction cs with
  | nil => trivial
  | cons c cs ih =>
    obtain ⟨first, rest⟩ := List.forall_mem_cons.1 h
    refine ⟨?_, ih rest⟩
    intro met
    have percent : '%' = c := (List.cons_prefix_cons.1 met).1
    subst percent
    rcases first with blank | word
    · exact absurd blank (by decide)
    · exact absurd word (by decide)

/-- A mark encloses what the search has split it into: `front` is what stands
    before the text that was searched, and the last dash of that text is the
    one of the closing delimiter. -/
theorem Mark.encloses_split {m : Mark} {opens closes cs : List Char} (front inner more : List Char)
    (twice : opens.length + closes.length = 4)
    (source : cs = opens ++ (dashIf m.trimLeft ++ (front ++ (inner ++ (closes ++ more)))))
    (chars : m.chars = cs.take (4 + dashLength m.trimLeft + front.length + inner.length))
    (left : m.trimLeft = false → (front ++ (inner ++ (closes ++ more))).head? ≠ some '-')
    (right : m.trimRight = (splitLastDash inner).1) (plain : front.getLast? ≠ some '-')
    (ends : NowhereIn (closes <+: ·) (front ++ inner) closes) :
    m.Encloses opens closes (front ++ (splitLastDash inner).2) := by
  have whole : (splitLastDash inner).2 ++ dashIf m.trimRight = inner := by
    rw [right]
    exact splitLastDash_eq inner
  constructor
  · have cut : cs = (opens ++ (dashIf m.trimLeft ++ (front ++ (inner ++ closes)))) ++ more := by
      rw [source]
      simp
    rw [chars, cut, List.take_left' (by simp; omega), List.append_assoc front,
      ← List.append_assoc (splitLastDash inner).2, whole]
  · intro none dash
    apply left none
    rw [List.append_assoc, whole] at dash
    rw [← List.append_assoc, List.head?_append, dash]
    rfl
  · intro none dash
    rw [List.getLast?_append, Option.or_eq_some_iff] at dash
    rcases dash with last | ⟨-, last⟩
    · exact getLast?_of_splitLastDash (right ▸ none) last
    · exact plain last
  · rw [List.append_assoc, whole]
    exact ends

/-- The mark that delimiters at a position make. -/
def Delimited.mark (d : Delimited) (position : Position) (cs : List Char) : Mark :=
  ⟨String.ofList (cs.take d.length), position, String.ofList (trim d.args), d.trimLeft,
    d.trimRight⟩

/-- Is what was found at the head of a source a whole mark, that of a tag if it
    has a name? -/
structure Delimited.Fits (d : Delimited) (cs : List Char) : Prop where
  pos : 0 < d.length
  le : d.length ≤ cs.length
  output : d.name = none → ∀ position, (d.mark position cs).IsOutput
  tag : ∀ name, d.name = some name → ∀ position, (d.mark position cs).IsTag name

theorem outputAfterOpen?_fits {cs : List Char} {d : Delimited}
    (h : outputAfterOpen? cs = some d) : d.Fits (outputOpen ++ cs) := by
  have form : outputAfterOpen? cs = (beforeClose? outputClose (splitDash cs).2).map fun inner =>
      ⟨none, (splitLastDash inner).2, (splitDash cs).1, (splitLastDash inner).1,
        4 + dashLength (splitDash cs).1 + inner.length⟩ := rfl
  rw [form] at h
  obtain ⟨inner, found, rfl⟩ := Option.map_eq_some_iff.1 h
  obtain ⟨more, body, nowhere⟩ := beforeClose?_eq_some found
  have source : outputOpen ++ cs =
      outputOpen ++ (dashIf (splitDash cs).1 ++ (inner ++ (outputClose ++ more))) := by
    rw [← body, splitDash_eq]
  constructor
  · show 0 < 4 + _ + _
    omega
  · rw [source]
    simp [outputOpen, outputClose]
    omega
  · intro _ position
    refine ⟨(splitLastDash inner).2, ?_, String.toList_ofList⟩
    apply Mark.encloses_split [] inner more rfl source
    · exact String.toList_ofList
    · intro none
      exact body ▸ head?_of_splitDash none
    · rfl
    · nofun
    · exact nowhere
  · nofun

/-- What is found behind the opening delimiter of a tag: the padding and the
    name as far as they go, and what stands before the first closing
    delimiter behind them. -/
theorem tagAfterOpen?_eq_some {cs : List Char} {d : Delimited} (h : tagAfterOpen? cs = some d) :
    ∃ padding name inner more,
      (splitDash cs).2 = padding ++ (name ++ (inner ++ (tagClose ++ more))) ∧
      ((∀ c ∈ padding, isBlank c = true) ∧
        StartsWithout isBlank (name ++ (inner ++ (tagClose ++ more)))) ∧
      ((∀ c ∈ name, isWord c = true) ∧ StartsWithout isWord (inner ++ (tagClose ++ more))) ∧
      NowhereIn (tagClose <+: ·) inner tagClose ∧
      d = ⟨some (String.ofList name), (splitLastDash inner).2, (splitDash cs).1,
        (splitLastDash inner).1,
        4 + dashLength (splitDash cs).1 + padding.length + name.length + inner.length⟩ := by
  let padding := (splitDash cs).2.takeWhile isBlank
  let named := (splitDash cs).2.dropWhile isBlank
  let name := named.takeWhile isWord
  have form : tagAfterOpen? cs = (beforeClose? tagClose (named.dropWhile isWord)).map fun inner =>
      ⟨some (String.ofList name), (splitLastDash inner).2, (splitDash cs).1, (splitLastDash inner).1,
        4 + dashLength (splitDash cs).1 + padding.length + name.length + inner.length⟩ := rfl
  rw [form] at h
  obtain ⟨inner, found, rfl⟩ := Option.map_eq_some_iff.1 h
  obtain ⟨more, rest, nowhere⟩ := beforeClose?_eq_some found
  have behindName : name ++ (inner ++ (tagClose ++ more)) = named := by
    rw [← rest]
    exact List.takeWhile_append_dropWhile
  refine ⟨padding, name, inner, more, ?_, ⟨List.all_eq_true.1 List.all_takeWhile, ?_⟩,
    ⟨List.all_eq_true.1 List.all_takeWhile, ?_⟩, nowhere, rfl⟩
  · rw [behindName]
    exact List.takeWhile_append_dropWhile.symm
  · rw [behindName]
    exact startsWithout_dropWhile isBlank _
  · rw [← rest]
    exact startsWithout_dropWhile isWord _

theorem tagAfterOpen?_fits {cs : List Char} {d : Delimited} (h : tagAfterOpen? cs = some d) :
    d.Fits (tagOpen ++ cs) := by
  obtain ⟨padding, name, inner, more, body, ⟨blank, named⟩, ⟨word, argued⟩, nowhere, rfl⟩ :=
    tagAfterOpen?_eq_some h
  rw [← List.append_assoc] at body
  have source : tagOpen ++ cs = tagOpen ++ (dashIf (splitDash cs).1 ++
      ((padding ++ name) ++ (inner ++ (tagClose ++ more)))) := by
    rw [← body, splitDash_eq]
  have plain : ∀ c ∈ padding ++ name, isBlank c = true ∨ isWord c = true := by
    intro c hc
    exact (List.mem_append.1 hc).imp (blank c) (word c)
  have behindArgs (ds : List Char) : inner ++ ds =
      (splitLastDash inner).2 ++ (dashIf (splitLastDash inner).1 ++ ds) := by
    rw [← List.append_assoc, splitLastDash_eq]
  rw [behindArgs] at argued named
  constructor
  · show 0 < 4 + _ + _ + _ + _
    omega
  · rw [source]
    simp [tagOpen, tagClose]
    omega
  · nofun
  · intro _ same position
    cases same
    refine ⟨padding, (splitLastDash inner).2, ?_, blank, ?_, ?_, argued.left, String.toList_ofList⟩
    · rw [String.toList_ofList, ← List.append_assoc]
      apply Mark.encloses_split (padding ++ name) inner more rfl source
      · rw [Mark.chars, Delimited.mark, String.toList_ofList, List.length_append, ← Nat.add_assoc]
      · intro none
        exact body ▸ head?_of_splitDash none
      · rfl
      · intro last
        -- a dash is neither white space nor a word character
        rcases plain '-' (List.mem_of_getLast? last) with dash | dash
        · exact absurd dash (by decide)
        · exact absurd dash (by decide)
      · exact nowhereIn_append.2 ⟨nowhereIn_tagClose plain _, nowhere⟩
    · rw [String.toList_ofList]
      exact word
    · rw [← List.append_assoc] at named
      rw [String.toList_ofList]
      exact named.left

/-- What the search finds at the head of a source is a whole mark. -/
theorem delimitedAt?_fits {cs : List Char} {d : Delimited} (h : delimitedAt? cs = some d) :
    d.Fits cs := by
  unfold delimitedAt? at h
  split at h
  next opened =>
    obtain ⟨more, rfl⟩ := List.isPrefixOf_iff_prefix.1 opened
    exact outputAfterOpen?_fits h
  next =>
    split at h
    next opened =>
      obtain ⟨more, rfl⟩ := List.isPrefixOf_iff_prefix.1 opened
      exact tagAfterOpen?_fits h
    next => cases h

/-- What starts with a character that is not in front begins behind it. -/
theorem infix_behind {c : Char} {cs front rest : List Char} (h : ∀ d ∈ front, d ≠ c)
    (met : c :: cs <:+: front ++ rest) : c :: cs <:+: rest := by
  induction front with
  | nil => exact met
  | cons d front ih =>
    obtain ⟨first, others⟩ := List.forall_mem_cons.1 h
    apply ih others
    rcases List.infix_cons_iff.1 met with here | later
    · exact absurd (List.cons_prefix_cons.1 here).1.symm first
    · exact later

theorem ne_of_mem_dashIf {c : Char} (h : '-' ≠ c) (trims : Bool) : ∀ d ∈ dashIf trims, d ≠ c := by
  intro d hd
  cases trims with
  | true =>
    rw [List.mem_singleton.1 hd]
    exact h
  | false => cases hd

theorem outputAfterOpen?_eq_none {cs : List Char} (h : outputAfterOpen? cs = none) :
    ¬ outputClose <:+: cs := by
  have missed : beforeClose? outputClose (splitDash cs).2 = none := Option.map_eq_none_iff.1 h
  intro closed
  apply beforeClose?_eq_none (by decide) missed
  rw [← splitDash_eq cs] at closed
  exact infix_behind (ne_of_mem_dashIf (by decide) _) closed

theorem tagAfterOpen?_eq_none {cs : List Char} (h : tagAfterOpen? cs = none) :
    ¬ tagClose <:+: cs := by
  let padding := (splitDash cs).2.takeWhile isBlank
  let named := (splitDash cs).2.dropWhile isBlank
  let name := named.takeWhile isWord
  have missed : beforeClose? tagClose (named.dropWhile isWord) = none := Option.map_eq_none_iff.1 h
  have blank : ∀ c ∈ padding, isBlank c = true := List.all_eq_true.1 List.all_takeWhile
  have word : ∀ c ∈ name, isWord c = true := List.all_eq_true.1 List.all_takeWhile
  intro closed
  apply beforeClose?_eq_none (by decide) missed
  -- the closing delimiter begins with no dash, no white space, and no character of a name
  rw [← splitDash_eq cs, ← List.takeWhile_append_dropWhile (p := isBlank) (l := (splitDash cs).2),
    ← List.takeWhile_append_dropWhile (p := isWord)
      (l := (splitDash cs).2.dropWhile isBlank)] at closed
  have behindDash := infix_behind (ne_of_mem_dashIf (by decide) _) closed
  have behindPadding := infix_behind
    (fun c hc => ne_of_apply_ne isBlank (by rw [blank c hc]; decide)) behindDash
  exact infix_behind (fun c hc => ne_of_apply_ne isWord (by rw [word c hc]; decide)) behindPadding

/-- Where the search finds nothing, no delimiters open. -/
theorem not_opens_of_delimitedAt? {cs : List Char} (h : delimitedAt? cs = none) : ¬ Opens cs := by
  unfold delimitedAt? at h
  split at h
  next opened =>
    rintro (⟨-, closed⟩ | ⟨tag, -⟩)
    · exact outputAfterOpen?_eq_none h closed
    -- an output and a tag do not open at one place
    · obtain ⟨more, rfl⟩ := List.isPrefixOf_iff_prefix.1 opened
      exact absurd (List.cons_prefix_cons.1 (List.cons_prefix_cons.1 tag).2).1 (by decide)
  next unopened =>
    rintro (⟨output, -⟩ | ⟨tag, closed⟩)
    · exact unopened (List.isPrefixOf_iff_prefix.2 output)
    · rw [if_pos (List.isPrefixOf_iff_prefix.2 tag)] at h
      exact tagAfterOpen?_eq_none h closed

theorem Mark.Encloses.around {m : Mark} {opens closes inner : List Char}
    (h : m.Encloses opens closes inner) (two : opens.length = 2) (more : List Char) :
    opens <+: m.chars ++ more ∧ closes <:+: (m.chars ++ more).drop 2 := by
  rw [h.chars, List.append_assoc opens, List.drop_left' two]
  refine ⟨List.prefix_append _ _, dashIf m.trimLeft ++ (inner ++ dashIf m.trimRight), more, ?_⟩
  simp only [List.append_assoc]

/-- Delimiters open at every whole mark. -/
theorem Mark.IsWhole.opens {m : Mark} (h : m.IsWhole) (more : List Char) :
    Opens (m.chars ++ more) := by
  rcases h with ⟨inner, h, -⟩ | ⟨name, padding, inner, h, -⟩
  · exact .inl (h.around rfl more)
  · exact .inr (h.around rfl more)

theorem Delimited.Fits.whole {d : Delimited} {cs : List Char} (h : d.Fits cs)
    (position : Position) : (d.mark position cs).IsWhole := by
  cases named : d.name with
  | none => exact .inl (h.output named position)
  | some name => exact .inr ⟨name, h.tag name named position⟩

@[simp] theorem Delimited.chars_mark (d : Delimited) (position : Position) (cs : List Char) :
    (d.mark position cs).chars = cs.take d.length :=
  String.toList_ofList

/-- What is found stands in front of the rest. -/
theorem Delimited.Fits.split {d : Delimited} {c : Char} {cs : List Char} (h : d.Fits (c :: cs)) :
    c :: cs = (c :: cs).take d.length ++ cs.drop (d.length - 1) ∧
      ((c :: cs).take d.length).length = d.length - 1 + 1 := by
  have positive := h.pos
  obtain ⟨k, hk⟩ := Nat.exists_eq_succ_of_ne_zero (Nat.ne_of_gt positive)
  have fits := h.le
  rw [hk] at fits ⊢
  refine ⟨by simp, ?_⟩
  rw [List.length_take, Nat.min_eq_left fits]
  rfl

/-- The search finds something exactly where delimiters open. -/
theorem delimitedAt?_eq_none {cs : List Char} : delimitedAt? cs = none ↔ ¬ Opens cs := by
  constructor
  · exact not_opens_of_delimitedAt?
  · intro shut
    cases found : delimitedAt? cs with
    | none => rfl
    | some d =>
      have opens := ((delimitedAt?_fits found).whole .start).opens (cs.drop d.length)
      rw [Delimited.chars_mark, List.take_append_drop] at opens
      exact absurd opens shut

/-! ## Section 5: End tags -/

/-- Are the characters an end tag of the word?  Nothing else stands in it but
    white space. -/
def IsEndTag (word : String) (cs : List Char) : Prop :=
  ∃ left padding behind right,
    cs = tagOpen ++ (dashIf left ++ (padding ++ (word.toList ++
      (behind ++ (dashIf right ++ tagClose))))) ∧
    (∀ c ∈ padding, isBlank c = true) ∧ ∀ c ∈ behind, isBlank c = true

/-- Does a text begin with an end tag of the word? -/
def BeginsEndTag (word : String) (cs : List Char) : Prop :=
  ∃ close more, cs = close ++ more ∧ IsEndTag word close

/-- The words of end tags: neither white space nor a dash is their first
    character. -/
def IsEndWord (word : String) : Prop :=
  ∃ c cs, word.toList = c :: cs ∧ isBlank c = false ∧ c ≠ '-'

theorem isEndWord_endraw : IsEndWord "endraw" :=
  ⟨'e', "ndraw".toList, rfl, by decide, by decide⟩

theorem isEndWord_endcomment : IsEndWord "endcomment" :=
  ⟨'e', "ndcomment".toList, rfl, by decide, by decide⟩

theorem endTagLength?_eq_some {word : String} {cs : List Char} {n : Nat}
    (h : endTagLength? word cs = some n) :
    ∃ close more, cs = close ++ more ∧ close.length = n ∧ IsEndTag word close := by
  unfold endTagLength? at h
  split at h
  next opened =>
    obtain ⟨inside, rfl⟩ := List.isPrefixOf_iff_prefix.1 opened
    have drop : (tagOpen ++ inside).drop 2 = inside := rfl
    simp only [drop] at h
    split at h
    next named =>
      split at h
      next closed =>
        cases h
        obtain ⟨after, hafter⟩ := List.isPrefixOf_iff_prefix.1 named
        obtain ⟨more, hmore⟩ := List.isPrefixOf_iff_prefix.1 closed
        have rest : ((splitDash inside).2.dropWhile isBlank).drop word.length = after := by
          rw [← hafter]
          exact List.drop_left
        rw [rest] at hmore ⊢
        -- put together from the end to the front
        have tail : after = after.takeWhile isBlank ++
            (dashIf (splitDash (after.dropWhile isBlank)).1 ++ (tagClose ++ more)) := by
          rw [hmore, splitDash_eq, List.takeWhile_append_dropWhile]
        have body : inside = dashIf (splitDash inside).1 ++
            ((splitDash inside).2.takeWhile isBlank ++ (word.toList ++ after)) := by
          rw [hafter, List.takeWhile_append_dropWhile, splitDash_eq]
        refine ⟨tagOpen ++ (dashIf (splitDash inside).1 ++
          ((splitDash inside).2.takeWhile isBlank ++ (word.toList ++ (after.takeWhile isBlank ++
            (dashIf (splitDash (after.dropWhile isBlank)).1 ++ tagClose))))), more, ?_, ?_,
          _, _, _, _, rfl, List.all_eq_true.1 List.all_takeWhile,
          List.all_eq_true.1 List.all_takeWhile⟩
        · simp only [List.append_assoc]
          rw [← tail, ← body]
        · have same : word.toList.length = word.length := String.length_toList
          simp only [List.length_append, length_dashIf, same]
          simp only [tagOpen, tagClose, List.length_cons, List.length_nil]
          omega
      next => cases h
    next => cases h
  next => cases h

theorem head?_of_blank {padding cs : List Char} (blank : ∀ c ∈ padding, isBlank c = true)
    (h : cs.head? ≠ some '-') : (padding ++ cs).head? ≠ some '-' := by
  cases padding with
  | nil => exact h
  | cons c padding =>
    intro dash
    cases dash
    exact absurd (blank '-' List.mem_cons_self) (by decide)

theorem dropWhile_append {p : Char → Bool} {cs rest : List Char} (h : ∀ c ∈ cs, p c = true)
    (ends : StartsWithout p rest) : (cs ++ rest).dropWhile p = rest := by
  rw [List.dropWhile_append_of_pos h]
  cases rest with
  | nil => rfl
  | cons c rest => rw [List.dropWhile_cons_of_neg (by simp [startsWithout_cons.1 ends])]

/-- Every end tag is found, whatever stands behind it. -/
theorem IsEndTag.endTagLength?_eq {word : String} (start : IsEndWord word) {close : List Char}
    (h : IsEndTag word close) (more : List Char) :
    endTagLength? word (close ++ more) = some close.length := by
  obtain ⟨left, padding, behind, right, rfl, blank, blank'⟩ := h
  obtain ⟨c, cs, hword, visible, noDash⟩ := start
  have length : word.toList.length = word.length := String.length_toList
  -- what is left behind each part: the word and the closing delimiter, dashed or not
  let tail := behind ++ (dashIf right ++ (tagClose ++ more))
  have source : tagOpen ++ (dashIf left ++ (padding ++ (word.toList ++
      (behind ++ (dashIf right ++ tagClose))))) ++ more =
      tagOpen ++ (dashIf left ++ (padding ++ (word.toList ++ tail))) := by
    simp [tail]
  have named : StartsWithout isBlank (word.toList ++ tail) := by
    rw [hword]
    exact startsWithout_cons.2 visible
  have closing : StartsWithout isBlank (dashIf right ++ (tagClose ++ more)) :=
    (startsWithout_nil isBlank).beforeTagClose rfl rfl right more
  have first : splitDash (dashIf left ++ (padding ++ (word.toList ++ tail))) =
      (left, padding ++ (word.toList ++ tail)) := by
    apply splitDash_dashIf
    apply head?_of_blank blank
    rw [hword]
    simpa using noDash
  have last : splitDash (dashIf right ++ (tagClose ++ more)) = (right, tagClose ++ more) :=
    splitDash_dashIf (by simp [tagClose])
  have opened : tagOpen.isPrefixOf
      (tagOpen ++ (dashIf left ++ (padding ++ (word.toList ++ tail)))) = true :=
    List.isPrefixOf_iff_prefix.2 (List.prefix_append _ _)
  have drop : (tagOpen ++ (dashIf left ++ (padding ++ (word.toList ++ tail)))).drop 2 =
      dashIf left ++ (padding ++ (word.toList ++ tail)) := rfl
  have behindWord : (word.toList ++ tail).drop word.length = tail := List.drop_left' length
  rw [source, endTagLength?, if_pos opened, drop, first]
  simp only [takeWhile_append blank named, dropWhile_append blank named]
  rw [if_pos (List.isPrefixOf_iff_prefix.2 (List.prefix_append _ _)), behindWord]
  simp only [tail, takeWhile_append blank' closing, dropWhile_append blank' closing, last]
  rw [if_pos (List.isPrefixOf_iff_prefix.2 (List.prefix_append _ _))]
  simp only [List.length_append, length_dashIf, length]
  simp only [tagOpen, tagClose, List.length_cons, List.length_nil]
  apply congrArg some
  omega

/-- Where no end tag begins, none is found. -/
theorem endTagLength?_eq_none {word : String} (start : IsEndWord word) {cs : List Char} :
    endTagLength? word cs = none ↔ ¬ BeginsEndTag word cs := by
  constructor
  · rintro missed ⟨close, more, rfl, tag⟩
    rw [tag.endTagLength?_eq start more] at missed
    cases missed
  · intro unfound
    cases h : endTagLength? word cs with
    | none => rfl
    | some n =>
      obtain ⟨close, more, same, -, tag⟩ := endTagLength?_eq_some h
      exact absurd ⟨close, more, same, tag⟩ unfound

/-- The body before an end tag is one in which no end tag begins. -/
theorem beforeEndTag?_eq_some {word : String} (start : IsEndWord word) {cs body : List Char}
    {n : Nat} (h : beforeEndTag? word cs = some (body, n)) :
    ∃ close more, cs = body ++ (close ++ more) ∧ close.length = n ∧ IsEndTag word close ∧
      NowhereIn (BeginsEndTag word) body (close ++ more) := by
  induction cs generalizing body with
  | nil => cases h
  | cons c cs ih =>
    rw [beforeEndTag?] at h
    split at h
    next n' here =>
      cases h
      obtain ⟨close, more, same, length, tag⟩ := endTagLength?_eq_some here
      exact ⟨close, more, same, length, tag, trivial⟩
    next missed =>
      obtain ⟨⟨later, n'⟩, found, same⟩ := Option.map_eq_some_iff.1 h
      cases same
      obtain ⟨close, more, rfl, length, tag, nowhere⟩ := ih found
      exact ⟨close, more, rfl, length, tag, (endTagLength?_eq_none start).1 missed, nowhere⟩

/-- Where there is no body before an end tag, no end tag begins anywhere. -/
theorem beforeEndTag?_eq_none {word : String} (start : IsEndWord word) {cs : List Char}
    (h : beforeEndTag? word cs = none) : NowhereIn (BeginsEndTag word) cs [] := by
  induction cs with
  | nil => trivial
  | cons c cs ih =>
    rw [beforeEndTag?] at h
    split at h
    next => cases h
    next missed =>
      refine ⟨?_, ih (Option.map_eq_none_iff.1 h)⟩
      rw [List.append_nil]
      exact (endTagLength?_eq_none start).1 missed

end Stencil
