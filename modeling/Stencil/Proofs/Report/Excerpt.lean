import Stencil.Proofs.Chunk.Standing
import Stencil.Proofs.Value.Range
import Stencil.Report

/-! # What an excerpt points at

    A position counts lines by their line feeds, and an excerpt breaks its
    source at every boundary of lines.  The two agree exactly as far as the
    source breaks at line feeds only, with or without a carriage return in
    front of them.  As far as that, the excerpt of an output or tag marks
    the line in which it starts, and its caret stands below its first
    character. -/

namespace Stencil

open Text

/-! ## Section 1: Lines between line feeds -/

/-- The lines of a source as positions count them: what stands between line
    feeds. -/
def feedLines (source : String) : List (List Char) :=
  source.toList.splitOn '\n'

/-- A line without the carriage return at its end. -/
def withoutReturn (cs : List Char) : List Char :=
  if cs.getLast? = some '\r' then cs.dropLast else cs

/-- Do the first lines of a source break nowhere but at their ends, a carriage
    return there being part of the end? -/
def BreaksAtFeeds (source : String) (count : Nat) : Prop :=
  ∀ text ∈ (feedLines source).take count, ∀ c ∈ withoutReturn text, isLineBoundary c = false

instance (source : String) (count : Nat) : Decidable (BreaksAtFeeds source count) :=
  decidable_of_iff
    (((feedLines source).take count).all fun text =>
      (withoutReturn text).all fun c => !isLineBoundary c)
    (by simp [BreaksAtFeeds])

theorem withoutReturn_cases (cs : List Char) :
    ∃ body, withoutReturn cs = body ∧ (cs = body ∨ cs = body ++ ['\r']) := by
  unfold withoutReturn
  split
  next last =>
    obtain ⟨body, rfl⟩ := List.getLast?_eq_some_iff.1 last
    exact ⟨body, by simp, .inr rfl⟩
  next => exact ⟨cs, rfl, .inl rfl⟩

theorem length_splitOn_feed (cs : List Char) :
    (cs.splitOn '\n').length = cs.count '\n' + 1 := by
  induction cs with
  | nil => rfl
  | cons c cs ih =>
    rw [List.splitOn_cons_eq_if_modifyHead, List.count_cons]
    split <;> simp [ih]

theorem head?_splitOn_feed (cs : List Char) :
    (cs.splitOn '\n').head? = some (cs.takeWhile (· ≠ '\n')) := by
  induction cs with
  | nil => rfl
  | cons c cs ih =>
    rw [List.splitOn_cons_eq_if_modifyHead]
    by_cases feed : c = '\n'
    · simp [feed]
    · cases rest : cs.splitOn '\n' with
      | nil => exact absurd rest (List.splitOn_ne_nil '\n' cs)
      | cons text texts =>
        rw [rest] at ih
        have first : text = cs.takeWhile (· ≠ '\n') := Option.some.inj ih
        simp [feed, first]

/-- The line in which some characters end, with those behind them on the same
    line. -/
theorem getElem?_splitOn_append (before rest : List Char) :
    ((before ++ rest).splitOn '\n')[before.count '\n']? =
      some ((before.reverse.takeWhile (· ≠ '\n')).reverse ++ rest.takeWhile (· ≠ '\n')) := by
  -- from the end, since a line feed there starts a new line
  induction before using List.reverseRecOn generalizing rest with
  | nil =>
    rw [List.nil_append, List.count_nil, ← List.head?_eq_getElem?, head?_splitOn_feed]
    rfl
  | append_singleton before c ih =>
    rw [List.append_assoc, List.singleton_append, List.count_append]
    by_cases feed : c = '\n'
    · subst feed
      rw [List.splitOn_append_cons_self,
        List.getElem?_append_right (by rw [length_splitOn_feed]; simp), length_splitOn_feed]
      simp [← List.head?_eq_getElem?, head?_splitOn_feed]
    · have same : before.count '\n' + [c].count '\n' = before.count '\n' := by simp [feed]
      rw [same, ih]
      simp [feed]

/-! ## Section 2: Lines of an excerpt -/

theorem linesFrom_cons {c : Char} (h : isLineBoundary c = false) (line cs : List Char) :
    linesFrom line (c :: cs) = linesFrom (c :: line) cs := by
  have other : c ≠ '\r' := by
    rintro rfl
    revert h
    decide
  rw [linesFrom, if_neg (by simp [h])]
  intro _ same
  exact absurd same other

/-- Characters that are no boundaries belong to the line begun. -/
theorem linesFrom_append {body : List Char} (h : ∀ c ∈ body, isLineBoundary c = false)
    (line rest : List Char) :
    linesFrom line (body ++ rest) = linesFrom (body.reverse ++ line) rest := by
  induction body generalizing line with
  | nil => rfl
  | cons c body ih =>
    obtain ⟨here, later⟩ := List.forall_mem_cons.1 h
    rw [List.cons_append, linesFrom_cons here, ih later]
    simp

/-- A line up to its line feed. -/
theorem lines_feed {text : List Char} (h : ∀ c ∈ withoutReturn text, isLineBoundary c = false)
    (rest : List Char) : lines (text ++ '\n' :: rest) = withoutReturn text :: lines rest := by
  have feed (line : List Char) : linesFrom line ('\n' :: rest) = line.reverse :: lines rest := by
    rw [linesFrom, if_pos (by decide)]
    · rfl
    · intros
      contradiction
  obtain ⟨body, bare, whole⟩ := withoutReturn_cases text
  rw [bare] at h ⊢
  -- with or without a carriage return in front of the line feed
  rcases whole with rfl | rfl
  · rw [lines, linesFrom_append h, feed]
    simp
  · rw [lines, List.append_assoc, linesFrom_append h]
    simp [linesFrom, lines]

/-- A last line without a line feed. -/
theorem lines_last {text : List Char} (h : ∀ c ∈ withoutReturn text, isLineBoundary c = false)
    (visible : text ≠ []) : lines text = [withoutReturn text] := by
  obtain ⟨body, bare, whole⟩ := withoutReturn_cases text
  rw [bare] at h ⊢
  rw [lines]
  rcases whole with rfl | rfl
  · have ended := linesFrom_append h [] []
    rw [List.append_nil] at ended
    rw [ended]
    simp [linesFrom, visible]
  · rw [linesFrom_append h, linesFrom, if_pos (by decide)]
    · simp [linesFrom]
    · intros
      contradiction

/-- No line holds a boundary. -/
theorem isLineBoundary_of_mem_linesFrom {line cs : List Char}
    (h : ∀ c ∈ line, isLineBoundary c = false) :
    ∀ text ∈ linesFrom line cs, ∀ c ∈ text, isLineBoundary c = false := by
  have reversed : ∀ c ∈ line.reverse, isLineBoundary c = false := by simpa using h
  fun_induction linesFrom line cs with
  | case1 line empty => simp
  | case2 line => simpa using h
  | case3 line cs ih => exact List.forall_mem_cons.2 ⟨reversed, ih (by simp) (by simp)⟩
  | case4 line c cs other boundary ih =>
    exact List.forall_mem_cons.2 ⟨reversed, ih (by simp) (by simp)⟩
  | case5 line c cs other inside ih =>
    have begun : ∀ d ∈ c :: line, isLineBoundary d = false :=
      List.forall_mem_cons.2 ⟨by simpa using inside, h⟩
    exact ih begun fun d hd => begun d (List.mem_reverse.1 hd)

theorem splitOn_feed_cases (cs : List Char) :
    cs.splitOn '\n' = [cs] ∨
      ∃ text rest, cs = text ++ '\n' :: rest ∧ cs.splitOn '\n' = text :: rest.splitOn '\n' := by
  by_cases feed : '\n' ∈ cs
  · obtain ⟨text, rest, rfl, before⟩ := List.eq_append_cons_of_mem feed
    exact .inr ⟨text, rest, rfl, List.splitOn_append_cons_self_of_not_mem before rest⟩
  · exact .inl (List.splitOn_eq_singleton feed)

/-- As far as a source breaks at line feeds only, its lines are those between
    line feeds, if the last of them is not empty. -/
theorem take_lines_of_plain {cs : List Char} {n : Nat} {last : List Char}
    (here : (cs.splitOn '\n')[n]? = some last) (visible : last ≠ [])
    (h : ∀ text ∈ (cs.splitOn '\n').take (n + 1), ∀ c ∈ withoutReturn text,
      isLineBoundary c = false) :
    (lines cs).take (n + 1) = ((cs.splitOn '\n').take (n + 1)).map withoutReturn := by
  -- on the number of lines in front, of which one is taken off at a time
  induction n generalizing cs with
  | zero =>
    rcases splitOn_feed_cases cs with single | ⟨text, rest, rfl, several⟩
    · rw [single] at here h ⊢
      obtain rfl : cs = last := Option.some.inj here
      rw [lines_last (h cs (by simp)) visible]
      rfl
    · rw [several] at h ⊢
      rw [lines_feed (h text (by simp))]
      rfl
  | succ n ih =>
    rcases splitOn_feed_cases cs with single | ⟨text, rest, rfl, several⟩
    · rw [single] at here
      cases here
    · rw [several] at here h ⊢
      rw [List.take_succ_cons, List.forall_mem_cons] at h
      rw [lines_feed h.1, List.take_succ_cons, List.take_succ_cons, List.map_cons, ih here h.2]

/-- The lines of a source are those between line feeds exactly as far as these
    break nowhere else, if the last of them is not empty. -/
theorem take_lines_iff {source : String} {n : Nat} {last : List Char}
    (here : (feedLines source)[n]? = some last) (visible : last ≠ []) :
    (lines source.toList).take (n + 1) = ((feedLines source).take (n + 1)).map withoutReturn ↔
      BreaksAtFeeds source (n + 1) := by
  constructor
  · intro agree text member
    have shown : withoutReturn text ∈ (lines source.toList).take (n + 1) := by
      rw [agree]
      exact List.mem_map_of_mem member
    exact isLineBoundary_of_mem_linesFrom (by simp) _ (List.mem_of_mem_take shown)
  · exact take_lines_of_plain here visible

/-! ## Section 3: The lines of an excerpt -/

/-- How a line of an excerpt begins: with a mark or a space, and its number,
    moved to the right. -/
def excerptLead (mark : Char) (width number : Nat) : List Char :=
  mark :: ' ' :: (List.replicate (width - (toString number).length) ' ' ++
    (toString number).toList ++ [' ', '|', ' '])

/-- Lines with their numbers, none of them marked. -/
def unmarkedLines (width : Nat) : Nat → List (List Char) → List (List Char)
  | _, [] => []
  | number, cs :: rest =>
    (excerptLead ' ' width number ++ cs) :: unmarkedLines width (number + 1) rest

theorem head?_of_mem_unmarkedLines {width number : Nat} {css : List (List Char)} :
    ∀ l ∈ unmarkedLines width number css, l.head? = some ' ' := by
  induction css generalizing number with
  | nil => exact fun l hl => absurd hl List.not_mem_nil
  | cons cs rest ih => exact List.forall_mem_cons.2 ⟨rfl, ih⟩

theorem excerptLines_unmarked {width line col number : Nat} {css : List (List Char)}
    (h : line < number ∨ number + css.length ≤ line) :
    ∃ shown, excerptLines width (.int line) (.int col) number css = .ok shown ∧
      shown.map String.toList = unmarkedLines width number css := by
  induction css generalizing number with
  | nil => exact ⟨[], rfl, rfl⟩
  | cons cs rest ih =>
    rw [List.length_cons] at h
    obtain ⟨shown, later, same⟩ := @ih (number + 1) (by omega)
    have other : Number.equal (.int number) (.int line) = false := by
      rw [Number.equal_int, decide_eq_false_iff_not]
      omega
    rw [excerptLines, other, later]
    refine ⟨_, rfl, ?_⟩
    simp [same, unmarkedLines, excerptLead, padLeft]

/-- The line below the marked one: spaces in place of a number, and a caret
    below a column. -/
def caretChars (width col : Nat) : List Char :=
  ' ' :: ' ' :: (List.replicate width ' ' ++ [' ', '|', ' ']) ++
    (List.replicate (col - 1) ' ' ++ ['^'])

theorem caretLine_eq (width col : Nat) :
    ∃ below, caretLine width (.int col) = .ok [below] ∧ below.toList = caretChars width col := by
  have indent : ((col : Int) - 1).toNat = col - 1 := by omega
  refine ⟨_, rfl, ?_⟩
  simp [indent, caretChars, padLeft]

/-- Among the lines of an excerpt, the one with the right number is marked. -/
theorem excerptLines_marked {width col number : Nat} (front : List (List Char)) (text : List Char)
    (back : List (List Char)) :
    ∃ shown, excerptLines width (.int (number + front.length : Nat)) (.int col) number
        (front ++ text :: back) = .ok shown ∧
      shown.map String.toList = unmarkedLines width number front ++
        (excerptLead '>' width (number + front.length) ++ text) :: caretChars width col ::
          unmarkedLines width (number + front.length + 1) back := by
  induction front generalizing number with
  | nil =>
    obtain ⟨shown, later, same⟩ := @excerptLines_unmarked width number col (number + 1) back
      (.inl (Nat.lt_succ_self number))
    obtain ⟨below, caret, chars⟩ := caretLine_eq width col
    have here : Number.equal (.int number) (.int number) = true := by simp [Number.equal_int]
    rw [List.nil_append, excerptLines, List.length_nil, Nat.add_zero, here, caret, later]
    refine ⟨_, rfl, ?_⟩
    simp [same, chars, unmarkedLines, excerptLead, padLeft]
  | cons cs front ih =>
    obtain ⟨shown, later, same⟩ := @ih (number + 1)
    have shift : number + 1 + front.length = number + (cs :: front).length := by
      rw [List.length_cons]
      omega
    rw [shift] at later same
    have other : Number.equal (.int number) (.int (number + (cs :: front).length : Nat)) =
        false := by
      rw [Number.equal_int, decide_eq_false_iff_not, List.length_cons]
      omega
    rw [List.cons_append, excerptLines, other, later]
    refine ⟨_, rfl, ?_⟩
    simp [same, unmarkedLines, excerptLead, padLeft]

/-! ## Section 4: The whole excerpt -/

/-- Do the lines of an excerpt mark one of them, which has a number and shows a
    text, and point at a column of that text with a caret on the line below?
    All other lines begin with a space. -/
inductive PointsAt (line col : Nat) (text : List Char) : List (List Char) → Prop
  | intro {front back : List (List Char)} {width : Nat} :
      (∀ l ∈ front ++ back, l.head? = some ' ') → (toString line).length ≤ width →
      PointsAt line col text
        (front ++ (excerptLead '>' width line ++ text) :: caretChars width col :: back)

/-- The numbers up to the last one of an excerpt are not longer than that. -/
theorem length_toString_le {m n : Nat} (h : m ≤ n) :
    (toString m).length ≤ (toString n).length := by
  rw [Nat.toString_eq_ofList_toDigits, Nat.toString_eq_ofList_toDigits, String.length_ofList,
    String.length_ofList, Nat.length_toDigits_le_iff (by decide) Nat.length_toDigits_pos]
  exact Nat.lt_of_le_of_lt h
    ((Nat.length_toDigits_le_iff (by decide) Nat.length_toDigits_pos).1 (Nat.le_refl _))

/-- The lines from one place to another, split at a line between them. -/
theorem drop_take_of_getElem? {α : Type} {as : List α} {a : α} {i k n : Nat}
    (here : as[i]? = some a) (first : k ≤ i) (last : i < n) :
    (as.take n).drop k = (as.take i).drop k ++ a :: (as.take n).drop (i + 1) := by
  obtain ⟨inside, rfl⟩ := List.getElem?_eq_some_iff.1 here
  have reached : i < (as.take n).length := by
    rw [List.length_take]
    omega
  have front : (as.take n).take i = as.take i := by rw [List.take_take, Nat.min_eq_left (by omega)]
  have back : (as.take n).drop i = as[i] :: (as.take n).drop (i + 1) := by
    rw [List.drop_eq_getElem_cons reached, List.getElem_take]
  have long : k ≤ (as.take i).length := by
    rw [List.length_take]
    omega
  rw [← back, ← front, ← List.drop_append_of_le_length (by rwa [front]), List.take_append_drop]

/-- The excerpt around a line of the source, with a caret below a column. -/
theorem excerpt_of_line {source : String} {i : Nat} {text : List Char} (col radius : Nat)
    (here : (lines source.toList)[i]? = some text) :
    ∃ (shown : List String) (width number : Nat) (front back : List (List Char)),
      excerpt source (.int (i + 1 : Nat)) (.int col) radius =
        .ok (String.intercalate "\n" shown) ∧
      (toString (i + 1)).length ≤ width ∧ (∀ l ∈ front ++ back, l ∈ lines source.toList) ∧
      shown.map String.toList = unmarkedLines width number front ++
        (excerptLead '>' width (i + 1) ++ text) :: caretChars width col ::
          unmarkedLines width (i + 2) back := by
  let all := lines source.toList
  let first := (max 1 (((i + 1 : Nat) : Int) - radius)).toNat
  let last := (min (all.length : Int) ((i + 1 : Nat) + radius)).toNat
  have inside : i < all.length := (List.getElem?_eq_some_iff.1 here).1
  have positive : 1 ≤ first := by omega
  have firstLine : first - 1 ≤ i := by omega
  have lastLine : i < last := by omega
  have numbered : first + ((all.take i).drop (first - 1)).length = i + 1 := by
    rw [List.length_drop, List.length_take, Nat.min_eq_left (Nat.le_of_lt inside)]
    clear_value first
    omega
  obtain ⟨shown, made, same⟩ := @excerptLines_marked (toString last).length col first
    ((all.take i).drop (first - 1)) text ((all.take last).drop (i + 1))
  rw [numbered, ← drop_take_of_getElem? here firstLine lastLine] at made
  rw [numbered] at same
  refine ⟨shown, _, first, _, _, ?_, length_toString_le lastLine, ?_, same⟩
  · have isLine : (Native.int (i + 1 : Nat)).isTrue = true := by
      simp only [Native.isTrue, ne_eq, decide_not, Bool.not_eq_true', decide_eq_false_iff_not]
      omega
    have bounds : (Number.less (.int (i + 1 : Nat)) (.int 1) ||
        Number.less (.int all.length) (.int (i + 1 : Nat))) = false := by
      rw [Number.less_int, Number.less_int, Bool.or_eq_false_iff, decide_eq_false_iff_not,
        decide_eq_false_iff_not]
      omega
    unfold excerpt
    simp only [isLine, Native.number?]
    rw [if_neg (by decide), if_neg (by rw [bounds]; decide)]
    show (excerptLines _ _ _ _ _ >>= _) = _
    rw [made]
    rfl
  · intro l member
    rcases List.mem_append.1 member with before | behind
    · exact List.mem_of_mem_take (List.mem_of_mem_drop before)
    · exact List.mem_of_mem_take (List.mem_of_mem_drop behind)

theorem feed_notMem_lead {mark : Char} (h : mark ≠ '\n') (width number : Nat) :
    '\n' ∉ excerptLead mark width number := by
  have digits : '\n' ∉ Nat.toDigits 10 number := fun member =>
    absurd (Nat.isDigit_of_mem_toDigits (by decide) (by decide) member) (by decide)
  simp [excerptLead, h.symm, digits]

theorem feed_notMem_unmarkedLines {width number : Nat} {css : List (List Char)}
    (h : ∀ cs ∈ css, '\n' ∉ cs) : ∀ l ∈ unmarkedLines width number css, '\n' ∉ l := by
  induction css generalizing number with
  | nil => exact fun l hl => absurd hl List.not_mem_nil
  | cons cs rest ih =>
    obtain ⟨here, later⟩ := List.forall_mem_cons.1 h
    refine List.forall_mem_cons.2 ⟨?_, ih later⟩
    rw [List.mem_append, not_or]
    exact ⟨feed_notMem_lead (by decide) width number, here⟩

theorem feed_notMem_of_mem_lines {cs : List Char} : ∀ l ∈ lines cs, '\n' ∉ l := by
  intro l member feed
  have inside := isLineBoundary_of_mem_linesFrom (by simp) l member '\n' feed
  revert inside
  decide

/-- The excerpt around a line marks this line alone, and points at the
    column. -/
theorem pointsAt_of_line {source : String} {i : Nat} {text : List Char} (col radius : Nat)
    (here : (lines source.toList)[i]? = some text) :
    ∃ shown, excerpt source (.int (i + 1 : Nat)) (.int col) radius = .ok shown ∧
      PointsAt (i + 1) col text (shown.toList.splitOn '\n') := by
  obtain ⟨shown, width, number, front, back, made, wide, inside, chars⟩ :=
    excerpt_of_line col radius here
  have feedless : ∀ l ∈ shown.map String.toList, '\n' ∉ l := by
    have frontLines : ∀ l ∈ front, '\n' ∉ l := fun l hl =>
      feed_notMem_of_mem_lines l (inside l (List.mem_append_left _ hl))
    have backLines : ∀ l ∈ back, '\n' ∉ l := fun l hl =>
      feed_notMem_of_mem_lines l (inside l (List.mem_append_right _ hl))
    have marked : '\n' ∉ excerptLead '>' width (i + 1) ++ text := by
      rw [List.mem_append, not_or]
      exact ⟨feed_notMem_lead (by decide) width (i + 1),
        feed_notMem_of_mem_lines text (List.mem_of_getElem? here)⟩
    rw [chars, List.forall_mem_append, List.forall_mem_cons, List.forall_mem_cons]
    exact ⟨feed_notMem_unmarkedLines frontLines, marked, by simp [caretChars],
      feed_notMem_unmarkedLines backLines⟩
  have cut : (String.intercalate "\n" shown).toList.splitOn '\n' = shown.map String.toList := by
    rw [String.toList_intercalate]
    exact List.splitOn_intercalate '\n' feedless (by simp [chars])
  refine ⟨_, made, ?_⟩
  rw [cut, chars]
  refine .intro ?_ wide
  rw [List.forall_mem_append]
  exact ⟨head?_of_mem_unmarkedLines, head?_of_mem_unmarkedLines⟩

/-! ## Section 5: Outputs and tags -/

/-- Does an excerpt mark one line, that in which the output or tag starts, a
    carriage return at its end aside, and point at its first character? -/
structure Mark.ShownIn (m : Mark) (source shown : String) (text : List Char) : Prop where
  line : (feedLines source)[m.position.line - 1]? = some text
  points : PointsAt m.position.line m.position.col (withoutReturn text) (shown.toList.splitOn '\n')
  first : ∃ c, m.chars.head? = some c ∧ (withoutReturn text)[m.position.col - 1]? = some c

theorem getElem?_withoutReturn {text : List Char} {i : Nat} {c : Char} (h : text[i]? = some c)
    (other : c ≠ '\r') : (withoutReturn text)[i]? = some c := by
  obtain ⟨body, bare, whole⟩ := withoutReturn_cases text
  rw [bare]
  rcases whole with rfl | rfl
  · exact h
  · by_cases inside : i < body.length
    · rwa [List.getElem?_append_left inside] at h
    · -- behind the body there is only the carriage return
      rw [List.getElem?_append_right (by omega), List.getElem?_singleton] at h
      split at h
      · exact absurd (Option.some.inj h).symm other
      · cases h

/-- Outputs and tags start with a brace. -/
theorem Mark.IsWhole.exists_chars {m : Mark} (h : m.IsWhole) :
    ∃ rest, m.chars = '\x7b' :: rest := by
  obtain ⟨inner, written, -⟩ | ⟨name, padding, inner, written, -⟩ := h
  · exact ⟨_, written.chars⟩
  · exact ⟨_, written.chars⟩

/-- The line in which an output or tag starts. -/
theorem Mark.StandsIn.exists_line {source : String} {m : Mark} (h : m.StandsIn source) :
    ∃ i text, m.position.line = i + 1 ∧ (feedLines source)[i]? = some text ∧
      m.chars.head? = some '\x7b' ∧ text[m.position.col - 1]? = some '\x7b' := by
  obtain ⟨before, after, split, position⟩ := h.split
  obtain ⟨rest, brace⟩ := h.whole.exists_chars
  have line := getElem?_splitOn_append before (m.chars ++ after)
  have col : m.position.col - 1 = (before.reverse.takeWhile (· ≠ '\n')).reverse.length := by
    rw [position, List.length_reverse]
    rfl
  rw [← split, brace, List.cons_append, List.takeWhile_cons_of_pos (by decide)] at line
  refine ⟨_, _, by rw [position]; rfl, line, by rw [brace]; rfl, ?_⟩
  rw [col, List.getElem?_append_right (Nat.le_refl _), Nat.sub_self]
  rfl

/-- The excerpt around an output or tag shows it, as far as the source breaks
    at line feeds only; and exactly if it does, the lines up to that of the
    output or tag are those that its position counts. -/
theorem Mark.excerpt_shows {source : String} {m : Mark} (h : m.StandsIn source) (radius : Nat) :
    (BreaksAtFeeds source m.position.line → ∃ shown text,
      excerpt source (.int m.position.line) (.int m.position.col) radius = .ok shown ∧
        m.ShownIn source shown text) ∧
    ((lines source.toList).take m.position.line =
        ((feedLines source).take m.position.line).map withoutReturn ↔
      BreaksAtFeeds source m.position.line) := by
  obtain ⟨i, text, number, here, brace, column⟩ := h.exists_line
  have visible : text ≠ [] := by
    rintro rfl
    cases column
  rw [number]
  have counted := take_lines_iff here visible
  refine ⟨fun plain => ?_, counted⟩
  have shownLine : (lines source.toList)[i]? = some (withoutReturn text) := by
    rw [← List.getElem?_take_of_lt (Nat.lt_succ_self i), counted.2 plain, List.getElem?_map,
      List.getElem?_take_of_lt (Nat.lt_succ_self i), here]
    rfl
  obtain ⟨shown, made, points⟩ := pointsAt_of_line m.position.col radius shownLine
  refine ⟨shown, text, made, ?_, ?_, '\x7b', brace, getElem?_withoutReturn column (by decide)⟩
  · rwa [number]
  · rwa [number]

/-! ### A line separator in front of an output -/

/-- A source whose first line holds a line separator. -/
def separatedSource : String :=
  "a\u2028b\n\x7b\x7b x | nope \x7d\x7d"

/-- The output in that source. -/
def separatedMark : Mark :=
  ⟨"\x7b\x7b x | nope \x7d\x7d", ⟨2, 1⟩, "x | nope", false, false⟩

theorem separatedMark_standsIn : separatedMark.StandsIn separatedSource := by
  have scanned : Chunk.scan separatedSource =
      .ok [.text "a\u2028b\n" ⟨1, 1⟩, .output separatedMark] := by rfl
  exact Chunk.standsIn_of_scan scanned (c := .output separatedMark) (by simp) rfl

theorem PointsAt.exists_mem {line col : Nat} {text : List Char} {ls : List (List Char)}
    (h : PointsAt line col text ls) : ∃ width, excerptLead '>' width line ++ text ∈ ls := by
  cases h with
  | @intro front back width => exact ⟨width, by simp⟩

/-- So an excerpt does not always show the line of the output or tag that it
    is made for. -/
theorem separatedSource_misnumbered :
    ¬ ∀ (source : String) (m : Mark) (radius : Nat), m.StandsIn source → ∃ shown text,
      excerpt source (.int m.position.line) (.int m.position.col) radius = .ok shown ∧
        m.ShownIn source shown text := by
  intro always
  obtain ⟨shown, text, made, shows⟩ := always _ _ 0 separatedMark_standsIn
  have other : (excerpt separatedSource (.int 2) (.int 1) 0).toOption =
      some "> 2 | b\n    | ^" := by
    decide +kernel
  obtain rfl : shown = "> 2 | b\n    | ^" :=
    Option.some.inj ((congrArg Except.toOption made).symm.trans other)
  obtain rfl : separatedMark.chars = text := Option.some.inj shows.line
  -- the output is longer than all lines of the excerpt
  obtain ⟨width, member⟩ := shows.points.exists_mem
  have short : ∀ l ∈ "> 2 | b\n    | ^".toList.splitOn '\n', l.length ≤ 7 := by decide
  have long := short _ member
  have whole : (withoutReturn separatedMark.chars).length = 14 := by rfl
  rw [List.length_append, whole] at long
  omega

/-- A source of two lines with carriage returns, and an output in the second. -/
def returnedSource : String :=
  "a\r\n \x7b\x7b x | nope \x7d\x7d\r\n"

/-- The output in that source. -/
def returnedMark : Mark :=
  ⟨"\x7b\x7b x | nope \x7d\x7d", ⟨2, 2⟩, "x | nope", false, false⟩

theorem returnedMark_shown : returnedMark.StandsIn returnedSource ∧
    BreaksAtFeeds returnedSource returnedMark.position.line ∧ ∃ shown text,
      excerpt returnedSource (.int 2) (.int 2) 2 = .ok shown ∧
        returnedMark.ShownIn returnedSource shown text := by
  have scanned : Chunk.scan returnedSource =
      .ok [.text "a\r\n " ⟨1, 1⟩, .output returnedMark, .text "\r\n" ⟨2, 16⟩] := by rfl
  have stands : returnedMark.StandsIn returnedSource :=
    Chunk.standsIn_of_scan scanned (c := .output returnedMark) (by simp) rfl
  have plain : BreaksAtFeeds returnedSource returnedMark.position.line := by decide
  exact ⟨stands, plain, (Mark.excerpt_shows stands 2).1 plain⟩

end Stencil
