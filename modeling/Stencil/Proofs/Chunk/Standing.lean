import Stencil.Proofs.Chunk.Partition

/-! # Where marks stand

    Every output and tag that a scan returns is written in the source, at
    the line and column that its mark gives, and so is the tag that a failed
    scan is blamed on. -/

namespace Stencil

open Text

/-- Is the mark that of a whole output or tag of the source, written where it
    says that it is? -/
structure Mark.StandsIn (m : Mark) (source : String) : Prop where
  whole : m.IsWhole
  /-- What stands in front of it is cut, and stops at its position. -/
  cut : ∃ segs after, Segmented m.position (m.chars ++ after) .start segs source.toList

/-- The characters of the source, from the position of the mark on, begin
    with those of the mark. -/
theorem Mark.StandsIn.split {m : Mark} {source : String} (h : m.StandsIn source) :
    ∃ before after, source.toList = before ++ (m.chars ++ after) ∧
      m.position = .behind before := by
  obtain ⟨segs, after, cut⟩ := h.cut
  refine ⟨segs.flatMap Segment.chars, after, cut.flatMap_chars.symm, ?_⟩
  rw [← Position.start_advance, cut.advance_chars]

/-- The mark of a segment, if it is an output or a tag that may begin a
    block. -/
def Segment.mark? : Segment → Option Mark
  | .output m | .tag _ m | .rawOpen m => some m
  | .text _ _ | .rawBody _ _ | .rawClose _ | .comment _ => none

/-- The mark of a chunk that is no text. -/
def Chunk.mark? : Chunk → Option Mark
  | .text _ _ => none
  | .output m | .tag _ m => some m

/-- A cut can be stopped in front of each mark. -/
theorem Segmented.standing {stop p : Position} {rest source : List Char} {segs : List Segment}
    (h : Segmented stop rest p segs source) {s : Segment} (member : s ∈ segs) {m : Mark}
    (marked : s.mark? = some m) :
    m.IsWhole ∧ ∃ front after, front <+: segs ∧
      Segmented m.position (m.chars ++ after) p front source := by
  obtain ⟨front, back, rfl⟩ := List.append_of_mem member
  -- the body and the end tag of a raw block have no mark
  have notBody : ∀ cs q, s ≠ .rawBody cs q := by
    rintro cs q rfl
    cases marked
  have notClose : ∀ cs, s ≠ .rawClose cs := by
    rintro cs rfl
    cases marked
  obtain ⟨mid, more, inFront, here⟩ := h.exists_split rfl notBody notClose
  have first : front <+: front ++ s :: back := List.prefix_append front _
  cases here with
  | text => cases marked
  | output output =>
    cases marked
    exact ⟨.inl output, front, _, first, inFront⟩
  | tag tag =>
    cases marked
    exact ⟨.inr ⟨_, tag⟩, front, _, first, inFront⟩
  | raw tag =>
    cases marked
    exact ⟨.inr ⟨_, tag⟩, front, _, first, inFront⟩
  | comment => cases marked

namespace Chunk

theorem mark?_between (before behind : Option Chunk) (chunk : Chunk) :
    (chunk.between before behind).mark? = chunk.mark? := by
  cases chunk <;> rfl

theorem mark?_of_ofSegment? {s : Segment} {c : Chunk} (h : ofSegment? s = some c) {m : Mark}
    (marked : c.mark? = some m) : s.mark? = some m := by
  cases s with
  | text | rawBody =>
    cases h
    cases marked
  | output | tag =>
    cases h
    exact marked
  | rawOpen | rawClose | comment => cases h

/-- A chunk has the mark of the segment that leaves it, trimmed or not. -/
theorem exists_segment_of_marked {segs : List Segment} {c : Chunk}
    (member : c ∈ trimAll false (segs.filterMap ofSegment?)) {m : Mark} (marked : c.mark? = some m) :
    ∃ s ∈ segs, ∃ kept, ofSegment? s = some kept ∧ kept.mark? = some m := by
  obtain ⟨i, found⟩ := List.mem_iff_getElem?.1 member
  rw [getElem?_of_trimAll rfl, Option.map_eq_some_iff] at found
  obtain ⟨kept, here, rfl⟩ := found
  obtain ⟨s, standing, left⟩ := List.mem_filterMap.1 (List.mem_of_getElem? here)
  exact ⟨s, standing, kept, left, (mark?_between _ _ kept).symm.trans marked⟩

/-- What the chunks of a source are marked with stands in the source. -/
theorem standsIn_of_scan {source : String} {chunks : List Chunk} (h : scan source = .ok chunks)
    {c : Chunk} (member : c ∈ chunks) {m : Mark} (marked : c.mark? = some m) :
    m.StandsIn source := by
  obtain ⟨segs, scanned, trims⟩ := exists_cut_of_scan h
  have meets := cutOf_cut source
  rw [scanned] at meets
  obtain ⟨stop, segmented⟩ := meets
  obtain ⟨s, standing, kept, left, marked⟩ := exists_segment_of_marked (trims ▸ member) marked
  obtain ⟨whole, front, after, -, cut⟩ :=
    segmented.standing standing (mark?_of_ofSegment? left marked)
  exact ⟨whole, front, after, cut⟩

/-- So does the tag that a failed scan is blamed on. -/
theorem exists_standsIn_of_scan {source : String} {f : Failure} (h : scan source = .error f) :
    ∃ m : Mark, m.StandsIn source ∧ f.place = some m.place := by
  -- only the cut can fail
  have failed : cut source = .error f := by
    rw [scan] at h
    exact eq_error_of_bind_pure h
  have meets := cutOf_cut source
  rw [failed] at meets
  obtain ⟨segs, m, after, cut, ⟨tag, -, rfl⟩ | ⟨tag, -, rfl⟩⟩ := meets
  · exact ⟨m, ⟨.inr ⟨_, tag⟩, segs, after, cut⟩, rfl⟩
  · exact ⟨m, ⟨.inr ⟨_, tag⟩, segs, after, cut⟩, rfl⟩

end Chunk

end Stencil
