import Mathlib.Data.List.Basic
import Stencil.Proofs.Chunk.Recut
import Stencil.Proofs.Chunk.Standing

/-! # White space in a source

    A run of white space in a text can be another run, and the source is
    still cut in the same places: no delimiter has white space in it, so
    none opens and none closes because of the run.  Only where the run goes
    away, and braces come together, can there be new ones. -/

namespace Stencil

open Text

/-! ## Section 1: Delimiters across white space -/

/-- Two characters in a row stand in one of two texts, or where they meet. -/
theorem pair_infix_append {a b : Char} {cs ds : List Char} (h : [a, b] <:+: cs ++ ds) :
    [a, b] <:+: cs ∨ [a, b] <:+: ds ∨ (cs.getLast? = some a ∧ ds.head? = some b) := by
  induction cs with
  | nil => exact .inr (.inl h)
  | cons c cs ih =>
    rw [List.cons_append, List.infix_cons_iff] at h
    rcases h with here | later
    · obtain ⟨rfl, next⟩ := List.cons_prefix_cons.1 here
      -- the first of the two is the last of `cs`, or both are in `cs`
      cases cs with
      | nil =>
        obtain ⟨ds', rfl⟩ := next
        exact .inr (.inr ⟨rfl, rfl⟩)
      | cons c cs =>
        obtain ⟨rfl, -⟩ := List.cons_prefix_cons.1 next
        exact .inl (List.prefix_append [a, b] cs).isInfix
    · rcases ih later with inside | behind | ⟨last, head⟩
      · exact .inl (inside.trans (List.suffix_cons _ _).isInfix)
      · exact .inr (.inl behind)
      · refine .inr (.inr ⟨?_, head⟩)
        rw [List.getLast?_cons, last]
        rfl

theorem ne_of_isBlank {c d : Char} (blank : isBlank c = true) (visible : isBlank d = false) :
    c ≠ d :=
  ne_of_apply_ne isBlank (by rw [blank, visible]; decide)

section

variable {run run' cs more : List Char} (blank : ∀ c ∈ run, isBlank c = true)

include blank

/-- Two characters that are not white space stand in front of a run, or behind
    it, or it is empty and they meet. -/
theorem pair_infix_around {a b : Char} (first : isBlank a = false) (second : isBlank b = false)
    (h : [a, b] <:+: cs ++ (run ++ more)) :
    [a, b] <:+: cs ∨ [a, b] <:+: more ∨
      (run = [] ∧ cs.getLast? = some a ∧ more.head? = some b) := by
  have absent {c d : Char} (member : c ∈ run) (visible : isBlank d = false) : c ≠ d :=
    ne_of_isBlank (blank c member) visible
  rcases pair_infix_append h with front | back | ⟨last, head⟩
  · exact .inl front
  · rcases pair_infix_append back with inside | behind | ⟨last, -⟩
    · exact absurd rfl (absent (inside.subset List.mem_cons_self) first)
    · exact .inr (.inl behind)
    · exact absurd rfl (absent (List.mem_of_getLast? last) first)
  · cases run with
    | nil => exact .inr (.inr ⟨rfl, last, head⟩)
    | cons c run =>
      cases head
      exact absurd rfl (absent List.mem_cons_self second)

/-- Delimiters that open in front of a run open in front of another one, too,
    unless the run is empty and braces meet there. -/
theorem Opens.respaced (visible : cs ≠ [])
    (apart : run = [] → cs.getLast? ≠ some '\x7b' ∧ more.head? ≠ some '\x7d')
    (h : Opens (cs ++ (run ++ more))) (run' : List Char) : Opens (cs ++ (run' ++ more)) := by
  obtain ⟨a, cs, rfl⟩ := List.exists_cons_of_ne_nil visible
  have delimiter {x y : Char} (shown : isBlank x = false) (shown' : isBlank y = false)
      (opened : ['\x7b', x] <+: a :: cs ++ (run ++ more))
      (closed : [y, '\x7d'] <:+: (a :: cs ++ (run ++ more)).drop 2) :
      ['\x7b', x] <+: a :: cs ++ (run' ++ more) ∧
        [y, '\x7d'] <:+: (a :: cs ++ (run' ++ more)).drop 2 := by
    rw [List.cons_append] at opened
    obtain ⟨rfl, next⟩ := List.cons_prefix_cons.1 opened
    cases cs with
    | nil =>
      -- the opening delimiter would have white space in it, or braces meet
      exfalso
      cases run with
      | nil => exact (apart rfl).1 rfl
      | cons c run =>
        obtain ⟨rfl, -⟩ := List.cons_prefix_cons.1 next
        exact absurd rfl (ne_of_isBlank (blank x List.mem_cons_self) shown)
    | cons b cs =>
      obtain ⟨rfl, -⟩ := List.cons_prefix_cons.1 next
      refine ⟨List.prefix_append ['\x7b', x] _, ?_⟩
      show [y, '\x7d'] <:+: cs ++ (run' ++ more)
      rcases pair_infix_around blank shown' (by decide) closed with inside | behind | ⟨none, -, meets⟩
      · exact inside.trans (List.prefix_append _ _).isInfix
      · exact behind.trans ((List.suffix_append _ _).trans (List.suffix_append _ _)).isInfix
      · exact absurd meets (apart none).2
  rcases h with ⟨opened, closed⟩ | ⟨opened, closed⟩
  · exact .inl (delimiter (by decide) (by decide) opened closed)
  · exact .inr (delimiter (by decide) (by decide) opened closed)

end

/-! ## Section 2: What stands behind a cut -/

theorem NowhereIn.mono_of_suffix {p q : List Char → Prop} {cs more more' : List Char}
    (h : NowhereIn p cs more)
    (weaker : ∀ ds, ds ≠ [] → ds <:+ cs → q (ds ++ more') → p (ds ++ more)) :
    NowhereIn q cs more' := by
  induction cs with
  | nil => trivial
  | cons c cs ih =>
    constructor
    · intro here
      exact h.1 (weaker _ (List.cons_ne_nil c cs) List.suffix_rfl here)
    · exact ih h.2 fun ds visible suffix => weaker ds visible (suffix.trans (List.suffix_cons c cs))

/-- The only closing brace of an end tag is its last character. -/
theorem IsEndTag.exists_brace {word : String} {cs : List Char} (plain : '\x7d' ∉ word.toList)
    (h : IsEndTag word cs) : ∃ front, cs = front ++ ['\x7d'] ∧ '\x7d' ∉ front := by
  obtain ⟨left, padding, behind, right, rfl, blank, blank'⟩ := h
  have dashed (trims : Bool) : '\x7d' ∉ dashIf trims :=
    fun member => ne_of_mem_dashIf (by decide) trims _ member rfl
  have spaced {cs : List Char} (blank : ∀ c ∈ cs, isBlank c = true) : '\x7d' ∉ cs :=
    fun member => ne_of_isBlank (blank _ member) (by decide) rfl
  refine ⟨tagOpen ++ (dashIf left ++ (padding ++ (word.toList ++
    (behind ++ (dashIf right ++ ['%']))))), by simp [tagClose], ?_⟩
  simp [tagOpen, dashed, spaced blank, spaced blank', plain]

theorem IsEndTag.getLast?_eq {word : String} {cs : List Char} (plain : '\x7d' ∉ word.toList)
    (h : IsEndTag word cs) : cs.getLast? = some '\x7d' := by
  obtain ⟨front, rfl, -⟩ := h.exists_brace plain
  exact List.getLast?_concat

/-- Whether an end tag begins in front of another one does not depend on what
    stands behind that. -/
theorem BeginsEndTag.change {word word' : String} {cs close more : List Char}
    (h : BeginsEndTag word (cs ++ (close ++ more))) (plain : '\x7d' ∉ word.toList)
    (plain' : '\x7d' ∉ word'.toList) (closes : IsEndTag word' close) (more' : List Char) :
    BeginsEndTag word (cs ++ (close ++ more')) := by
  obtain ⟨tag, behind, whole, ends⟩ := h
  have inside : tag <+: cs ++ close := by
    rw [← List.append_assoc] at whole
    have first : tag <+: cs ++ close ++ more := ⟨behind, whole.symm⟩
    rcases List.prefix_or_prefix_of_prefix first (List.prefix_append _ more) with tagFirst | longer
    · exact tagFirst
    · -- the brace that ends the second tag is the one that ends the first
      obtain ⟨front, rfl, unbraced⟩ := ends.exists_brace plain
      obtain ⟨front', rfl, -⟩ := closes.exists_brace plain'
      rcases List.prefix_concat_iff.1 longer with same | shorter
      · exact same ▸ List.prefix_rfl
      · exact absurd (shorter.subset (by simp)) unbraced
  obtain ⟨after, split⟩ := inside
  refine ⟨tag, after ++ more', ?_, ends⟩
  rw [← List.append_assoc, ← split, List.append_assoc]

/-- Do delimiters that open in a text in front of the one rest open in front of
    the other one, too? -/
def OpensAlike (cs rest rest' : List Char) : Prop :=
  ∀ ds, ds ≠ [] → ds <:+ cs → Opens (ds ++ rest') → Opens (ds ++ rest)

theorem OpensAlike.behind {front back rest rest' : List Char}
    (h : OpensAlike (front ++ back) rest rest') : OpensAlike back rest rest' :=
  fun ds visible suffix => h ds visible (suffix.trans (List.suffix_append front back))

/-- What stands behind a run is in front of the same texts whatever the run. -/
theorem opensAlike_respaced {before run run' behind : List Char}
    (blank' : ∀ c ∈ run', isBlank c = true)
    (apart : run' = [] → before.getLast? ≠ some '\x7b' ∧ behind.head? ≠ some '\x7d') :
    OpensAlike before (run ++ behind) (run' ++ behind) := by
  rintro ds visible ⟨front, rfl⟩ opens
  apply opens.respaced blank' visible
  intro gone
  refine ⟨fun last => (apart gone).1 ?_, (apart gone).2⟩
  rw [List.getLast?_append, last]
  rfl

/-- No delimiters open in white space. -/
theorem nowhereIn_of_blank {run : List Char} (blank : ∀ c ∈ run, isBlank c = true)
    (more : List Char) : NowhereIn Opens run more :=
  nowhereIn_opens (fun member => ne_of_isBlank (blank _ member) (by decide) rfl) more

section

variable {stop mid p : Position} {rest rest' source more : List Char} {segs front back : List Segment}

theorem flatMap_raw (m : Mark) (body close : List Char) (q : Position) (segs : List Segment) :
    (.rawOpen m :: (rawBodySegment body q ++ .rawClose close :: segs)).flatMap Segment.chars =
      m.chars ++ (body ++ (close ++ segs.flatMap Segment.chars)) := by
  rw [List.flatMap_cons, List.flatMap_append, flatMap_rawBodySegment, List.flatMap_cons]
  rfl

/-- The same cut stops in front of something else, if no delimiters open in
    the text before it because of that. -/
theorem Segmented.onto (h : Segmented stop rest p segs source)
    (alike : OpensAlike (segs.flatMap Segment.chars) rest rest') :
    Segmented stop rest' p segs (segs.flatMap Segment.chars ++ rest') := by
  induction h with
  | done => exact .done
  | @text cs _ segs _ visible nowhere other h ih =>
    rw [List.flatMap_cons] at alike ⊢
    -- delimiters that open in the text now would have opened before
    have text : NowhereIn Opens cs (segs.flatMap Segment.chars ++ rest') := by
      apply nowhere.mono_of_suffix
      rintro ds here ⟨ds', rfl⟩
      rw [← h.flatMap_chars, ← List.append_assoc, ← List.append_assoc]
      exact alike _ (by simp [here]) ⟨ds', by simp [Segment.chars]⟩
    rw [List.append_assoc]
    exact .text visible text other (ih alike.behind)
  | output output _ ih =>
    rw [List.flatMap_cons] at alike ⊢
    rw [List.append_assoc]
    exact .output output (ih alike.behind)
  | tag tag notRaw notComment _ ih =>
    rw [List.flatMap_cons] at alike ⊢
    rw [List.append_assoc]
    exact .tag tag notRaw notComment (ih alike.behind)
  | @raw m body close segs _ tag nowhere closes h ih =>
    -- the end tag behind the body is still the first one
    have body' : NowhereIn (BeginsEndTag "endraw") body
        (close ++ (segs.flatMap Segment.chars ++ rest')) :=
      nowhere.mono fun ds begins => begins.change (by decide) (by decide) closes _
    rw [flatMap_raw] at alike ⊢
    simp only [List.append_assoc]
    exact .raw tag body' closes (ih alike.behind.behind.behind)
  | @comment m body close segs _ tag nowhere closes h ih =>
    have body' : NowhereIn (BeginsEndTag "endcomment") body
        (close ++ (segs.flatMap Segment.chars ++ rest')) :=
      nowhere.mono fun ds begins => begins.change (by decide) (by decide) closes _
    rw [List.flatMap_cons] at alike ⊢
    simp only [Segment.chars, List.append_assoc]
    exact .comment tag body' closes (ih alike.behind)

/-! ## Section 3: Cuts that go on -/

/-- A cut goes on where another one stops, unless a text would stand behind a
    text. -/
theorem Segmented.append (h : Segmented mid more p front source)
    (later : Segmented stop rest mid back more)
    (apart : ∀ cs q, front.getLast? = some (.text cs q) → ∀ ds r, back.head? ≠ some (.text ds r)) :
    Segmented stop rest p (front ++ back) source := by
  induction h with
  | done => exact later
  | @text cs q segs _ visible nowhere other _ ih =>
    refine .text visible nowhere ?_ (ih fun ds r last => apart ds r (List.mem_getLast?_cons last))
    intro ds r head
    -- the text is the last segment, or the next one is known
    cases segs with
    | nil => exact apart cs q rfl ds r head
    | cons s segs => exact other ds r head
  | output output _ ih =>
    exact .output output (ih fun ds r last => apart ds r (List.mem_getLast?_cons last))
  | tag tag notRaw notComment _ ih =>
    exact .tag tag notRaw notComment (ih fun ds r last => apart ds r (List.mem_getLast?_cons last))
  | raw tag nowhere closes _ ih =>
    rw [List.cons_append, List.append_assoc, List.cons_append]
    refine .raw tag nowhere closes (ih fun ds r last => apart ds r (List.mem_getLast?_cons ?_))
    exact List.mem_getLast?_append_of_mem_getLast? (List.mem_getLast?_cons last)
  | comment tag nowhere closes _ ih =>
    exact .comment tag nowhere closes (ih fun ds r last => apart ds r (List.mem_getLast?_cons last))

/-! ## Section 4: Braces at the ends -/

theorem Mark.IsWhole.braces {m : Mark} (h : m.IsWhole) :
    m.chars.head? = some '\x7b' ∧ m.chars.getLast? = some '\x7d' := by
  have around {opens closes inner : List Char} (h : m.Encloses opens closes inner)
      (first : opens.head? = some '\x7b') (last : closes.getLast? = some '\x7d') :
      m.chars.head? = some '\x7b' ∧ m.chars.getLast? = some '\x7d' := by
    rw [h.chars, List.head?_append, first]
    refine ⟨rfl, ?_⟩
    iterate 4 apply List.mem_getLast?_append_of_mem_getLast?
    exact last
  rcases h with ⟨inner, h, -⟩ | ⟨name, padding, inner, h, -⟩
  · exact around h rfl rfl
  · exact around h rfl rfl

/-- What is cut ends with a closing brace, unless the last segment is a
    text. -/
theorem Segmented.getLast?_chars (h : Segmented stop rest p segs source) (visible : segs ≠ [])
    (last : ∀ cs q, segs.getLast? ≠ some (.text cs q)) :
    (segs.flatMap Segment.chars).getLast? = some '\x7d' := by
  -- behind a piece that ends with the brace, there is nothing or more that is cut
  have onward {front : List Char} {s : Segment} {segs : List Segment}
      (h : front.getLast? = some '\x7d')
      (ih : segs ≠ [] → (∀ cs q, segs.getLast? ≠ some (.text cs q)) →
        (segs.flatMap Segment.chars).getLast? = some '\x7d')
      (last : ∀ cs q, (s :: segs).getLast? ≠ some (.text cs q)) :
      (front ++ segs.flatMap Segment.chars).getLast? = some '\x7d' := by
    cases segs with
    | nil => rwa [List.flatMap_nil, List.append_nil]
    | cons t segs =>
      exact List.mem_getLast?_append_of_mem_getLast? (ih (List.cons_ne_nil t segs) fun cs q text =>
        last cs q (List.mem_getLast?_cons text))
  induction h with
  | done => exact absurd rfl visible
  | @text cs q segs _ _ _ _ _ ih =>
    cases segs with
    | nil => exact absurd rfl (last cs q)
    | cons t segs =>
      exact List.mem_getLast?_append_of_mem_getLast? (ih (List.cons_ne_nil t segs) fun ds r text =>
        last ds r (List.mem_getLast?_cons text))
  | output output _ ih =>
    exact onward (Mark.IsWhole.braces (.inl output)).2 ih last
  | tag tag _ _ _ ih =>
    exact onward (Mark.IsWhole.braces (.inr ⟨_, tag⟩)).2 ih last
  | raw _ _ closes _ ih =>
    rw [flatMap_raw]
    iterate 2 apply List.mem_getLast?_append_of_mem_getLast?
    exact onward (closes.getLast?_eq (by decide)) ih fun cs q text =>
      last cs q (List.mem_getLast?_cons (List.mem_getLast?_append_of_mem_getLast? text))
  | comment _ _ closes _ ih =>
    refine onward ?_ ih last
    iterate 2 apply List.mem_getLast?_append_of_mem_getLast?
    exact closes.getLast?_eq (by decide)

/-- What is cut begins with an opening brace, unless the first segment is a
    text. -/
theorem Segmented.head?_chars (h : Segmented stop rest p segs source) (visible : segs ≠ [])
    (first : ∀ cs q, segs.head? ≠ some (.text cs q)) :
    (segs.flatMap Segment.chars).head? = some '\x7b' := by
  have opened {m : Mark} (whole : m.IsWhole) (more : List Char) :
      (m.chars ++ more).head? = some '\x7b' := by
    rw [List.head?_append, whole.braces.1]
    rfl
  cases h with
  | done => exact absurd rfl visible
  | text => exact absurd rfl (first _ _)
  | output output => exact opened (.inl output) _
  | tag tag => exact opened (.inr ⟨_, tag⟩) _
  | raw tag => exact opened (.inr ⟨_, tag⟩) _
  | comment tag =>
    rw [List.flatMap_cons, Segment.chars, List.append_assoc]
    exact opened (.inr ⟨_, tag⟩) _

/-! ## Section 5: Cuts that are moved -/

/-- The mark, wherever it stands. -/
def Mark.unplaced (m : Mark) : Mark :=
  { m with position := .start }

/-- The segment, wherever it stands. -/
def Segment.unplaced : Segment → Segment
  | text cs _ => text cs .start
  | output m => output m.unplaced
  | tag name m => tag name m.unplaced
  | rawOpen m => rawOpen m.unplaced
  | rawBody cs _ => rawBody cs .start
  | rawClose cs => rawClose cs
  | comment cs => comment cs

theorem Mark.IsOutput.placed {m : Mark} (h : m.IsOutput) (q : Position) :
    IsOutput { m with position := q } := by
  obtain ⟨inner, encloses, args⟩ := h
  exact ⟨inner, ⟨encloses.chars, encloses.left, encloses.right, encloses.ends⟩, args⟩

theorem Mark.IsTag.placed {name : String} {m : Mark} (h : m.IsTag name) (q : Position) :
    IsTag name { m with position := q } := by
  obtain ⟨padding, inner, encloses, rest⟩ := h
  exact ⟨padding, inner, ⟨encloses.chars, encloses.left, encloses.right, encloses.ends⟩, rest⟩

theorem map_unplaced_rawBodySegment (body : List Char) (q r : Position) :
    (rawBodySegment body q).map Segment.unplaced = (rawBodySegment body r).map Segment.unplaced := by
  unfold rawBodySegment
  split <;> rfl

/-- A text is a text wherever it stands. -/
theorem head?_ne_text {segs segs' : List Segment}
    (same : segs'.map Segment.unplaced = segs.map Segment.unplaced)
    (other : ∀ ds q, segs.head? ≠ some (.text ds q)) (ds : List Char) (q : Position) :
    segs'.head? ≠ some (.text ds q) := by
  intro head
  have first : (segs.map Segment.unplaced).head? = some (.text ds .start) := by
    rw [← same, List.head?_map, head]
    rfl
  rw [List.head?_map, Option.map_eq_some_iff] at first
  obtain ⟨s, here, text⟩ := first
  cases s with
  | text cs r =>
    cases text
    exact other ds r here
  | _ => cases text

/-- The same characters are cut into the same segments wherever the cut
    starts. -/
theorem Segmented.moved (h : Segmented stop rest p segs source) (q : Position) :
    ∃ stop' segs', Segmented stop' rest q segs' source ∧
      segs'.map Segment.unplaced = segs.map Segment.unplaced := by
  induction h generalizing q with
  | done => exact ⟨q, [], .done, rfl⟩
  | @text cs _ _ _ visible nowhere other _ ih =>
    obtain ⟨stop', segs', later, same⟩ := ih (q.advance cs)
    refine ⟨stop', _, .text visible nowhere (head?_ne_text same other) later, ?_⟩
    rw [List.map_cons, List.map_cons, same]
    rfl
  | @output m _ _ output _ ih =>
    obtain ⟨stop', segs', later, same⟩ := ih (q.advance m.chars)
    refine ⟨stop', _, .output (output.placed q) later, ?_⟩
    rw [List.map_cons, List.map_cons, same]
    rfl
  | @tag name m _ _ tag notRaw notComment _ ih =>
    obtain ⟨stop', segs', later, same⟩ := ih (q.advance m.chars)
    refine ⟨stop', _, .tag (tag.placed q) notRaw notComment later, ?_⟩
    rw [List.map_cons, List.map_cons, same]
    rfl
  | @raw m body close _ _ tag nowhere closes _ ih =>
    obtain ⟨stop', segs', later, same⟩ := ih (q.advance (m.chars ++ (body ++ close)))
    refine ⟨stop', _, .raw (tag.placed q) nowhere closes later, ?_⟩
    simp only [List.map_cons, List.map_append, same]
    rw [map_unplaced_rawBodySegment body _ (m.position.advance m.chars)]
    rfl
  | @comment m body close _ _ tag nowhere closes _ ih =>
    obtain ⟨stop', segs', later, same⟩ := ih (q.advance (m.chars ++ (body ++ close)))
    refine ⟨stop', _, .comment (tag.placed q) nowhere closes later, ?_⟩
    rw [List.map_cons, List.map_cons, same]
    rfl

end

end Stencil
