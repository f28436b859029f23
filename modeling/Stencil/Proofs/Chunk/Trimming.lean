import Mathlib.Data.List.TakeWhile
import Stencil.Proofs.Chunk.Spacing

/-! # White space that is trimmed

    White space directly outside a dashed delimiter belongs to the text that
    ends or begins there, and nothing of it is left in the chunks: they are
    those of the segments without it, and a source with other white space in
    its place has the same chunks.  The dashes of raw and comment blocks trim
    nothing, for their tags leave no chunk. -/

namespace Stencil

open Text

/-! ## Section 1: Positions -/

/-- A position tells how much of a source is in front of it. -/
theorem Text.Position.behind_injOn {cs ds source : List Char} (first : cs <+: source)
    (second : ds <+: source) (same : Position.behind cs = .behind ds) : cs = ds := by
  have ofPrefix {cs more : List Char} (same : Position.behind (cs ++ more) = .behind cs) :
      more = [] := by
    obtain ⟨line, col⟩ := Position.mk.injEq .. ▸ same
    -- the line tells that no line feed is in between, and so the column how much is
    have oneLine : '\n' ∉ more := by
      rw [List.count_append] at line
      exact List.count_eq_zero.1 (by omega)
    have counted : ∀ c ∈ more.reverse, decide (c ≠ '\n') = true := by
      intro c member
      rw [decide_eq_true_eq]
      rintro rfl
      exact oneLine (List.mem_reverse.1 member)
    rw [List.reverse_append, List.takeWhile_append_of_pos counted, List.length_append,
      List.length_reverse] at col
    exact List.eq_nil_of_length_eq_zero (by omega)
  rcases List.prefix_or_prefix_of_prefix first second with ⟨more, rfl⟩ | ⟨more, rfl⟩
  · rw [ofPrefix same.symm, List.append_nil]
  · rw [ofPrefix same, List.append_nil]

/-! ## Section 2: Runs in texts -/

section

variable {run : List Char} (blank : ∀ c ∈ run, isBlank c = true)

include blank

theorem trimStart_append (cs : List Char) : trimStart (run ++ cs) = trimStart cs :=
  List.dropWhile_append_of_pos blank

theorem trimEnd_append (cs : List Char) : trimEnd (cs ++ run) = trimEnd cs := by
  have turned : ∀ c ∈ run.reverse, isBlank c = true := fun c member =>
    blank c (List.mem_reverse.1 member)
  rw [trimEnd, trimEnd, dropTrailing, dropTrailing, List.reverse_append,
    List.dropWhile_append_of_pos turned]

theorem trimEnd_trimStart_append (cs : List Char) :
    trimEnd (trimStart (cs ++ run)) = trimEnd (trimStart cs) := by
  rw [trimStart, dropLeading, List.dropWhile_append]
  split
  next empty =>
    have none : run.dropWhile isBlank = [] := List.dropWhile_eq_nil_iff.2 blank
    rw [none, trimStart, dropLeading, List.isEmpty_iff.1 empty]
  next => exact trimEnd_append blank _

/-- What is trimmed on the side of a run is the same without the run. -/
theorem Chunk.trimmed_respaced {cs ds : List Char} {left right : Bool}
    (trims : (left = true ∧ cs = []) ∨ (right = true ∧ ds = [])) :
    trimmed left right (String.ofList (cs ++ (run ++ ds))) =
      trimmed left right (String.ofList (cs ++ ds)) := by
  rcases trims with ⟨rfl, rfl⟩ | ⟨rfl, rfl⟩
  · simp only [trimmed, String.toList_ofList, List.nil_append, if_true, trimStart_append blank]
  · simp only [trimmed, String.toList_ofList, List.append_nil, if_true]
    cases left
    · exact congrArg String.ofList (trimEnd_append blank cs)
    · exact congrArg String.ofList (trimEnd_trimStart_append blank cs)

end

/-! ## Section 3: Texts in a cut -/

section

variable {stop p q : Position} {rest source cs : List Char} {segs front back : List Segment}

/-- What is cut in front of a text and behind it are no texts. -/
theorem Segmented.around_text (h : Segmented stop rest p (front ++ .text cs q :: back) source) :
    ∃ more, Segmented q (cs ++ more) p front source ∧ NowhereIn Opens cs more ∧
      Segmented stop rest (q.advance cs) back more ∧
      (∀ ds r, front.getLast? ≠ some (.text ds r)) ∧ ∀ ds r, back.head? ≠ some (.text ds r) := by
  -- the same for every text of the cut, since what is in front of it may be one
  have split {front back : List Segment} {cs : List Char} {q : Position}
      (h : Segmented stop rest p (front ++ .text cs q :: back) source) :
      ∃ more, Segmented q (cs ++ more) p front source ∧ NowhereIn Opens cs more ∧
        Segmented stop rest (q.advance cs) back more ∧ ∀ ds r, back.head? ≠ some (.text ds r) := by
    obtain ⟨mid, more, inFront, here⟩ := h.exists_split rfl (by simp) (by simp)
    cases here with
    | text _ nowhere other later => exact ⟨_, inFront, nowhere, later, other⟩
  obtain ⟨more, inFront, nowhere, later, other⟩ := split h
  refine ⟨more, inFront, nowhere, later, fun ds r last => ?_, other⟩
  obtain ⟨front, rfl⟩ := List.getLast?_eq_some_iff.1 last
  rw [List.append_assoc] at h
  obtain ⟨-, -, -, -, apart⟩ := split h
  exact apart cs q rfl

/-- Another text can stand in place of a text if no delimiters open because
    of that. -/
theorem Segmented.replace_text
    (h : Segmented stop [] p (front ++ .text cs q :: back) source) {cs' : List Char}
    (nowhere : NowhereIn Opens cs' (back.flatMap Segment.chars))
    (alike : OpensAlike (front.flatMap Segment.chars) (cs ++ back.flatMap Segment.chars)
      (cs' ++ back.flatMap Segment.chars)) :
    ∃ stop' back', Segmented stop' [] p (front ++ (textSegment cs' q ++ back'))
        (front.flatMap Segment.chars ++ (cs' ++ back.flatMap Segment.chars)) ∧
      back'.map Segment.unplaced = back.map Segment.unplaced := by
  obtain ⟨more, inFront, -, later, last, other⟩ := h.around_text
  have whole : back.flatMap Segment.chars = more := by rw [← later.flatMap_chars, List.append_nil]
  rw [whole] at nowhere alike ⊢
  obtain ⟨stop', back', moved, same⟩ := later.moved (q.advance cs')
  have behind := moved.behindText nowhere (head?_ne_text same other)
  exact ⟨stop', back', (inFront.onto alike).append behind fun ds r text => absurd text (last ds r),
    same⟩

/-- A run of white space at the end of what is cut is in one text. -/
theorem Segmented.ends_with_run (h : Segmented stop rest p segs source) {before run : List Char}
    (chars : segs.flatMap Segment.chars = before ++ run) (visible : run ≠ [])
    (blank : ∀ c ∈ run, isBlank c = true) :
    ∃ front cs q, segs = front ++ [.text (cs ++ run) q] ∧
      before = front.flatMap Segment.chars ++ cs := by
  have unbraced {cs : List Char} (part : ∀ c ∈ cs, c ∈ run) (present : cs ≠ []) (front : List Char) :
      (front ++ cs).getLast? ≠ some '\x7d' := by
    intro brace
    rw [List.getLast?_append, List.getLast?_eq_some_getLast present] at brace
    exact ne_of_isBlank (blank _ (part _ (List.getLast_mem present))) (by decide)
      (Option.some.inj brace)
  by_cases text : ∃ cs q, segs.getLast? = some (.text cs q)
  · obtain ⟨cs, q, last⟩ := text
    obtain ⟨front, rfl⟩ := List.getLast?_eq_some_iff.1 last
    obtain ⟨more, inFront, -, -, other, -⟩ := h.around_text
    have split : front.flatMap Segment.chars ++ cs = before ++ run := by
      rw [← chars]
      simp [Segment.chars]
    rcases List.append_eq_append_iff.1 split with ⟨ds, rfl, rfl⟩ | ⟨ds, same, rfl⟩
    · exact ⟨front, ds, q, rfl, rfl⟩
    · cases ds with
      | nil => exact ⟨front, [], q, rfl, by simp [same]⟩
      | cons d ds =>
        -- the run would begin in what ends with a brace
        have present : front ≠ [] := by
          rintro rfl
          simp at same
        have brace := inFront.getLast?_chars present other
        rw [same] at brace
        exact absurd brace (unbraced (fun c => List.mem_append_left _) (List.cons_ne_nil d ds) _)
  · have present : segs ≠ [] := by
      rintro rfl
      exact visible (List.append_eq_nil_iff.1 chars.symm).2
    have brace := h.getLast?_chars present fun cs q last => text ⟨cs, q, last⟩
    rw [chars] at brace
    exact absurd brace (unbraced (fun _ => id) visible _)

/-- A run of white space at the beginning of what is cut is in one text. -/
theorem Segmented.begins_with_run (h : Segmented stop rest p segs source) {run behind : List Char}
    (chars : segs.flatMap Segment.chars = run ++ behind) (visible : run ≠ [])
    (blank : ∀ c ∈ run, isBlank c = true) :
    ∃ ds q back, segs = .text (run ++ ds) q :: back ∧
      behind = ds ++ back.flatMap Segment.chars := by
  have unbraced {cs : List Char} (part : ∀ c ∈ cs, c ∈ run) (present : cs ≠ []) (back : List Char) :
      (cs ++ back).head? ≠ some '\x7b' := by
    intro brace
    obtain ⟨c, cs, rfl⟩ := List.exists_cons_of_ne_nil present
    cases brace
    exact ne_of_isBlank (blank _ (part _ List.mem_cons_self)) (by decide) rfl
  by_cases text : ∃ cs q, segs.head? = some (.text cs q)
  · obtain ⟨cs, q, head⟩ := text
    obtain ⟨back, rfl⟩ := List.head?_eq_some_iff.1 head
    have first : Segmented stop rest p ([] ++ .text cs q :: back) source := h
    obtain ⟨more, -, -, later, -, other⟩ := first.around_text
    have split : run ++ behind = cs ++ back.flatMap Segment.chars := chars.symm
    rcases List.append_eq_append_iff.1 split with ⟨ds, rfl, rfl⟩ | ⟨ds, rfl, same⟩
    · exact ⟨ds, q, back, rfl, rfl⟩
    · cases ds with
      | nil => exact ⟨[], q, back, by simp, same.symm⟩
      | cons d ds =>
        -- the run would end in what begins with a brace
        have present : back ≠ [] := by
          rintro rfl
          cases same
        have brace := later.head?_chars present other
        rw [same] at brace
        exact absurd brace (unbraced (fun c => List.mem_append_right _) (List.cons_ne_nil d ds) _)
  · have present : segs ≠ [] := by
      rintro rfl
      exact visible (List.append_eq_nil_iff.1 chars.symm).1
    have brace := h.head?_chars present fun cs q head => text ⟨cs, q, head⟩
    rw [chars] at brace
    exact absurd brace (unbraced (fun _ => id) visible _)

/-- Another run of white space can stand in a text, as long as the text does
    not go away and no braces meet. -/
theorem Segmented.respaced_text {run run' ds : List Char}
    (h : Segmented stop [] p (front ++ .text (cs ++ (run ++ ds)) q :: back) source)
    (blank' : ∀ c ∈ run', isBlank c = true) (visible : cs ++ (run' ++ ds) ≠ [])
    (alike : OpensAlike (front.flatMap Segment.chars ++ cs)
      (run ++ (ds ++ back.flatMap Segment.chars)) (run' ++ (ds ++ back.flatMap Segment.chars))) :
    ∃ stop' back', Segmented stop' [] p (front ++ .text (cs ++ (run' ++ ds)) q :: back')
        (front.flatMap Segment.chars ++ cs ++ (run' ++ (ds ++ back.flatMap Segment.chars))) ∧
      back'.map Segment.unplaced = back.map Segment.unplaced := by
  -- no delimiters open in the new text, nor in what is in front because of it
  have nowhere : NowhereIn Opens (cs ++ (run' ++ ds)) (back.flatMap Segment.chars) := by
    obtain ⟨more, -, nowhere, later, -, -⟩ := h.around_text
    have whole : back.flatMap Segment.chars = more := by
      rw [← later.flatMap_chars, List.append_nil]
    rw [whole] at alike ⊢
    rw [nowhereIn_append, nowhereIn_append, List.append_assoc] at nowhere
    obtain ⟨first, -, second⟩ := nowhere
    rw [nowhereIn_append, nowhereIn_append, List.append_assoc]
    exact ⟨first.mono_of_suffix alike.behind, nowhereIn_of_blank blank' _, second⟩
  have alikeFront : OpensAlike (front.flatMap Segment.chars)
      (cs ++ (run ++ ds) ++ back.flatMap Segment.chars)
      (cs ++ (run' ++ ds) ++ back.flatMap Segment.chars) := by
    rintro es present ⟨es', split⟩ opens
    simp only [List.append_assoc] at opens ⊢
    rw [← List.append_assoc es] at opens ⊢
    exact alike _ (by simp [present]) ⟨es', by rw [← split, List.append_assoc]⟩ opens
  obtain ⟨stop', back', recut, same⟩ := h.replace_text nowhere alikeFront
  refine ⟨stop', back', ?_, same⟩
  rw [textSegment, if_neg (by simpa using visible)] at recut
  simpa only [List.append_assoc, List.singleton_append] using recut

/-- What stands in a cut where a segment leaves a mark. -/
theorem Segmented.at_mark {s : Segment} (h : Segmented stop rest p (s :: segs) source) {c : Chunk}
    (leaves : Chunk.ofSegment? s = some c) {m : Mark} (marked : c.mark? = some m) :
    p = m.position ∧ ∃ after, source = m.chars ++ after ∧
      Segmented stop rest (m.position.advance m.chars) segs after := by
  cases h with
  | text =>
    cases leaves
    cases marked
  | output _ later =>
    cases leaves
    cases marked
    exact ⟨rfl, _, rfl, later⟩
  | tag _ _ _ later =>
    cases leaves
    cases marked
    exact ⟨rfl, _, rfl, later⟩
  | raw => cases leaves
  | comment => cases leaves

end

/-! ## Section 4: Runs that are trimmed -/

/-- Does the run stand directly outside a delimiter of the mark that has a
    dash?  In front of the run stands `before`, and `behind` behind it. -/
inductive Mark.Trims (m : Mark) : List Char → List Char → List Char → Prop
  | left {before run after : List Char} : m.trimLeft = true →
      m.position = .behind (before ++ run) → Trims m before run (m.chars ++ after)
  | right {front run behind : List Char} : m.trimRight = true →
      m.position = .behind front → Trims m (front ++ m.chars) run behind

namespace Chunk

theorem trimsLeft_of_mark? {c : Chunk} {m : Mark} (marked : c.mark? = some m) :
    c.trimsLeft = m.trimLeft := by
  cases c with
  | text => cases marked
  | output | tag =>
    cases marked
    rfl

theorem trimsRight_of_mark? {c : Chunk} {m : Mark} (marked : c.mark? = some m) :
    c.trimsRight = m.trimRight := by
  cases c with
  | text => cases marked
  | output | tag =>
    cases marked
    rfl

theorem chars_of_mark? {s : Segment} {c : Chunk} (leaves : ofSegment? s = some c) {m : Mark}
    (marked : c.mark? = some m) : s.chars = m.chars := by
  cases s with
  | text | rawBody =>
    cases leaves
    cases marked
  | output | tag =>
    cases leaves
    cases marked
    rfl
  | rawOpen | rawClose | comment => cases leaves

/-- Is the run in a text of the segments, next to one whose chunk trims it?  In
    that text `cs` stands in front of the run, and `ds` behind it. -/
structure Spaced (segs : List Segment) (before run behind : List Char) (front : List Segment)
    (cs ds : List Char) (q : Position) (back : List Segment) : Prop where
  segs : segs = front ++ .text (cs ++ (run ++ ds)) q :: back
  before : before = front.flatMap Segment.chars ++ cs
  behind : behind = ds ++ back.flatMap Segment.chars
  trims : ((front.filterMap ofSegment?).getLast?.any trimsRight = true ∧ cs = []) ∨
    ((back.filterMap ofSegment?).head?.any trimsLeft = true ∧ ds = [])

section

variable {stop : Position} {source before run behind : List Char} {segs : List Segment}

/-- A run of white space that a mark trims is in the text next to it. -/
theorem exists_spaced (h : Segmented stop [] .start segs source) {s : Segment} (member : s ∈ segs)
    {c : Chunk} (leaves : ofSegment? s = some c) {m : Mark} (marked : c.mark? = some m)
    (written : source = before ++ (run ++ behind)) (trims : m.Trims before run behind)
    (visible : run ≠ []) (blank : ∀ c ∈ run, isBlank c = true) :
    ∃ front cs ds q back, Spaced segs before run behind front cs ds q back := by
  obtain ⟨f, b, rfl⟩ := List.append_of_mem member
  obtain ⟨mid, more, inFront, here⟩ := h.exists_split rfl
    (by rintro cs q rfl; cases leaves; cases marked) (by rintro cs rfl; cases leaves)
  obtain ⟨rfl, after, rfl, later⟩ := here.at_mark leaves marked
  -- what is in front of the mark is told by its position
  have place {front : List Char} (first : front <+: source) (told : m.position = .behind front) :
      f.flatMap Segment.chars = front := by
    have cutFirst : f.flatMap Segment.chars <+: source := ⟨_, inFront.flatMap_chars⟩
    apply Position.behind_injOn cutFirst first
    rw [← told, ← Position.start_advance, inFront.advance_chars]
  have whole : f.flatMap Segment.chars ++ (m.chars ++ after) = before ++ (run ++ behind) := by
    rw [inFront.flatMap_chars, written]
  cases trims with
  | left trims told =>
    have chars := place ⟨_, by rw [written, List.append_assoc]⟩ told
    rw [chars, List.append_assoc, List.append_cancel_left_eq, List.append_cancel_left_eq] at whole
    obtain ⟨front, cs, q, rfl, rfl⟩ := inFront.ends_with_run chars visible blank
    refine ⟨front, cs, [], q, s :: b, by simp, rfl, ?_, .inr ⟨?_, rfl⟩⟩
    · rw [← whole, ← here.flatMap_chars, List.append_nil]
      rfl
    · rw [List.filterMap_cons_some leaves]
      exact (trimsLeft_of_mark? marked).trans trims
  | right trims told =>
    have chars := place ⟨_, by rw [written, List.append_assoc]⟩ told
    rw [chars, List.append_assoc, List.append_cancel_left_eq, List.append_cancel_left_eq] at whole
    have behindMark : b.flatMap Segment.chars = run ++ behind := by
      rw [← whole, ← later.flatMap_chars, List.append_nil]
    obtain ⟨ds, q, back, rfl, rfl⟩ := later.begins_with_run behindMark visible blank
    refine ⟨f ++ [s], [], ds, q, back, by simp, ?_, rfl, .inl ⟨?_, rfl⟩⟩
    · rw [← chars, List.flatMap_append, List.append_nil, List.flatMap_singleton,
        chars_of_mark? leaves marked]
    · rw [List.filterMap_append, List.filterMap_cons_some leaves, List.filterMap_nil,
        List.getLast?_concat]
      exact (trimsRight_of_mark? marked).trans trims

end

/-- A text can be replaced where it is trimmed to the same. -/
theorem trimAll_congr (first : Option Chunk) (front back : List Chunk) {s s' : String}
    (q : Position)
    (same : trimmed ((front.getLast?.or first).any trimsRight) (back.head?.any trimsLeft) s =
      trimmed ((front.getLast?.or first).any trimsRight) (back.head?.any trimsLeft) s') :
    trimAll (first.any trimsRight) (front ++ text s q :: back) =
      trimAll (first.any trimsRight) (front ++ text s' q :: back) := by
  induction front generalizing first with
  | nil => exact congrArg (fun t => text t q :: trimAll false back) same
  | cons c front ih =>
    -- what stands in front of the text is `c` now, if nothing else is between them
    have last : ((c :: front).getLast?.or first) = front.getLast?.or (some c) := by
      rw [List.getLast?_cons]
      cases front.getLast? <;> rfl
    rw [last] at same
    have later := ih (some c) same
    have head : (front ++ text s q :: back).head?.any trimsLeft =
        (front ++ text s' q :: back).head?.any trimsLeft := by
      cases front <;> rfl
    rw [Option.any_some] at later
    rw [List.cons_append, List.cons_append, trimAll_cons, trimAll_cons, later,
      between_congr rfl head]

/-- Nothing is left of a run that is trimmed. -/
theorem trimAll_respaced {run cs ds : List Char} {front back : List Segment} (q : Position)
    (blank : ∀ c ∈ run, isBlank c = true)
    (trims : ((front.filterMap ofSegment?).getLast?.any trimsRight = true ∧ cs = []) ∨
      ((back.filterMap ofSegment?).head?.any trimsLeft = true ∧ ds = [])) :
    trimAll false ((front ++ .text (cs ++ (run ++ ds)) q :: back).filterMap ofSegment?) =
      trimAll false ((front ++ .text (cs ++ ds) q :: back).filterMap ofSegment?) := by
  have leaves (cs : List Char) : (.text cs q :: back).filterMap ofSegment? =
      text (String.ofList cs) q :: back.filterMap ofSegment? := rfl
  rw [List.filterMap_append, List.filterMap_append, leaves, leaves]
  apply trimAll_congr none
  apply trimmed_respaced blank
  rwa [Option.or_none]

/-! ## Section 5: Chunks that are moved -/

/-- The chunk, wherever it stands. -/
def unplaced : Chunk → Chunk
  | text s _ => text s .start
  | output m => output m.unplaced
  | tag name m => tag name m.unplaced

theorem ofSegment?_unplaced (s : Segment) : ofSegment? s.unplaced = (ofSegment? s).map unplaced := by
  cases s <;> rfl

theorem filterMap_unplaced (segs : List Segment) :
    (segs.map Segment.unplaced).filterMap ofSegment? =
      (segs.filterMap ofSegment?).map unplaced := by
  rw [List.filterMap_map, List.map_filterMap]
  exact congrArg (List.filterMap · segs) (funext ofSegment?_unplaced)

theorem any_trimsLeft_unplaced (chunks : List Chunk) :
    (chunks.map unplaced).head?.any trimsLeft = chunks.head?.any trimsLeft := by
  cases chunks with
  | nil => rfl
  | cons c chunks => cases c <;> rfl

theorem trimAll_unplaced (left : Bool) (chunks : List Chunk) :
    trimAll left (chunks.map unplaced) = (trimAll left chunks).map unplaced := by
  induction chunks generalizing left with
  | nil => rfl
  | cons c chunks ih =>
    cases c with
    | text s q =>
      rw [List.map_cons, unplaced, trimAll, ih, any_trimsLeft_unplaced]
      rfl
    | output m => exact congrArg (output m.unplaced :: ·) (ih m.trimRight)
    | tag name m => exact congrArg (tag name m.unplaced :: ·) (ih m.trimRight)

end Chunk

/-! ## Section 6: Other white space in its place -/

/-- Does text stand next to a place in a source, and is it no brace? -/
def TextBeside (before behind : List Char) : Prop :=
  (∃ c ∈ before.getLast?, c ≠ '\x7b' ∧ c ≠ '\x7d') ∨
    ∃ c ∈ behind.head?, c ≠ '\x7b' ∧ c ≠ '\x7d'

namespace Chunk

section

variable {stop : Position} {source before run behind cs ds : List Char}
  {segs front back : List Segment} {q : Position}

/-- Where text stands next to a run that is trimmed, it is a text without the
    run, and no braces meet if the run goes away. -/
theorem Spaced.apart (h : Spaced segs before run behind front cs ds q back)
    (cut : Segmented stop [] .start segs source) (beside : TextBeside before behind) :
    cs ++ ds ≠ [] ∧ before.getLast? ≠ some '\x7b' ∧ behind.head? ≠ some '\x7d' := by
  have whole := h.segs
  subst whole
  obtain ⟨more, inFront, -, later, last, head⟩ := cut.around_text
  rcases h.trims with ⟨trims, rfl⟩ | ⟨trims, rfl⟩
  · have present : front ≠ [] := by
      rintro rfl
      cases trims
    -- the mark that trims ends in front of the run, so the text beside it is behind
    have brace : before.getLast? = some '\x7d' := by
      rw [h.before, List.append_nil, inFront.getLast?_chars present last]
    rcases beside with ⟨c, told, -, other⟩ | ⟨c, told, open', close⟩
    · rw [brace] at told
      exact absurd (Option.some.inj told).symm other
    · rw [brace, told]
      refine ⟨?_, by simp, fun same => close (Option.some.inj same)⟩
      rintro rfl
      rw [h.behind, List.nil_append] at told
      have present' : back ≠ [] := by
        rintro rfl
        cases told
      rw [later.head?_chars present' head] at told
      exact open' (Option.some.inj told).symm
  · have present : back ≠ [] := by
      rintro rfl
      cases trims
    -- the mark begins behind the run, so the text is in front
    have brace : behind.head? = some '\x7b' := by
      rw [h.behind, List.nil_append, later.head?_chars present head]
    rcases beside with ⟨c, told, open', close⟩ | ⟨c, told, other, -⟩
    · rw [brace, told]
      refine ⟨?_, fun same => open' (Option.some.inj same), by simp⟩
      intro gone
      rw [List.append_nil] at gone
      rw [h.before, gone, List.append_nil] at told
      have present' : front ≠ [] := by
        rintro rfl
        cases told
      rw [inFront.getLast?_chars present' last] at told
      exact close (Option.some.inj told).symm
    · rw [brace] at told
      exact absurd (Option.some.inj told).symm other

/-- A source with another run of white space in place of one that is trimmed
    is scanned into the same chunks, wherever they stand. -/
theorem scan_respaced {source : String} {chunks : List Chunk}
    (scanned : scan source = .ok chunks) {c : Chunk} (member : c ∈ chunks) {m : Mark}
    (marked : c.mark? = some m) (written : source.toList = before ++ (run ++ behind))
    (trims : m.Trims before run behind) (visible : run ≠ [])
    (blank : ∀ c ∈ run, isBlank c = true) {run' : List Char}
    (blank' : ∀ c ∈ run', isBlank c = true) (beside : run' = [] → TextBeside before behind) :
    ∃ chunks', scan (String.ofList (before ++ (run' ++ behind))) = .ok chunks' ∧
      chunks'.map unplaced = chunks.map unplaced := by
  obtain ⟨segs, found, rfl⟩ := exists_cut_of_scan scanned
  obtain ⟨stop, whole⟩ := cut_eq_ok.1 found
  obtain ⟨s, standing, kept, leaves, marked⟩ := exists_segment_of_marked member marked
  obtain ⟨front, cs, ds, q, back, h⟩ :=
    exists_spaced whole standing leaves marked written trims visible blank
  have apart := h.apart whole
  obtain ⟨rfl, rfl, rfl, dashed⟩ := h
  have text : cs ++ (run' ++ ds) ≠ [] := by
    by_cases gone : run' = []
    · rw [gone]
      exact (apart (beside gone)).1
    · simp [gone]
  obtain ⟨stop', back', recut, same⟩ := whole.respaced_text blank' text
    (opensAlike_respaced blank' fun gone => (apart (beside gone)).2)
  -- the segments behind the run have moved, and ask for the same
  have kept' : (back'.filterMap ofSegment?).map unplaced =
      (back.filterMap ofSegment?).map unplaced := by
    rw [← filterMap_unplaced, same, filterMap_unplaced]
  have dashed' := dashed
  rw [← any_trimsLeft_unplaced, ← kept', any_trimsLeft_unplaced] at dashed'
  refine ⟨_, scan_of_cut (cut_ofList_eq_ok.2 ⟨stop', recut⟩), ?_⟩
  rw [trimAll_respaced q blank' dashed', trimAll_respaced q blank dashed]
  simp only [← trimAll_unplaced, ← filterMap_unplaced, List.map_append, List.map_cons, same]

end

end Chunk

end Stencil
