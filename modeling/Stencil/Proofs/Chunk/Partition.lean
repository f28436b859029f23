import Stencil.Chunk.Basic
import Stencil.Proofs.Chunk.Recut

/-! # The chunks of a source

    What the scan of a source returns: the segments of the source, less
    those that leave no chunk, in order, each text trimmed on the sides
    that the chunks next to it ask for. -/

namespace Stencil

open Text

namespace Chunk

/-! ## Section 1: Trimming -/

/-- The chunk in front of the one at an index, `first` being in front of them
    all. -/
def before? (first : Option Chunk) (chunks : List Chunk) : Nat → Option Chunk
  | 0 => first
  | i + 1 => chunks[i]?

/-- A chunk between two others, its text trimmed on the sides that they ask
    for. -/
def between (before behind : Option Chunk) : Chunk → Chunk
  | text s position =>
    text (trimmed (before.any trimsRight) (behind.any trimsLeft) s) position
  | output m => output m
  | tag name m => tag name m

@[simp] theorem trimsRight_between (before behind : Option Chunk) (chunk : Chunk) :
    (chunk.between before behind).trimsRight = chunk.trimsRight := by
  cases chunk <;> rfl

@[simp] theorem trimsLeft_between (before behind : Option Chunk) (chunk : Chunk) :
    (chunk.between before behind).trimsLeft = chunk.trimsLeft := by
  cases chunk <;> rfl

theorem between_congr {before before' behind behind' : Option Chunk}
    (right : before.any trimsRight = before'.any trimsRight)
    (left : behind.any trimsLeft = behind'.any trimsLeft) (chunk : Chunk) :
    chunk.between before behind = chunk.between before' behind' := by
  cases chunk with
  | text s position => rw [between, between, right, left]
  | output m => rfl
  | tag name m => rfl

theorem trimAll_cons (first : Option Chunk) (chunk : Chunk) (chunks : List Chunk) :
    trimAll (first.any trimsRight) (chunk :: chunks) =
      chunk.between first chunks.head? :: trimAll chunk.trimsRight chunks := by
  cases chunk <;> rfl

theorem getElem?_trimAll (first : Option Chunk) (chunks : List Chunk) (i : Nat) :
    (trimAll (first.any trimsRight) chunks)[i]? =
      chunks[i]?.map (between (before? first chunks i) chunks[i + 1]?) := by
  induction chunks generalizing first i with
  | nil => rfl
  | cons chunk chunks ih =>
    rw [trimAll_cons]
    cases i with
    | zero => simp [before?, List.head?_eq_getElem?]
    | succ i =>
      have later := ih (some chunk) i
      rw [Option.any_some] at later
      rw [List.getElem?_cons_succ, later]
      cases i <;> rfl

/-- Trimming is between the trimmed chunks: they ask what they asked before. -/
theorem getElem?_of_trimAll {kept chunks : List Chunk} (h : chunks = trimAll false kept) (i : Nat) :
    chunks[i]? = kept[i]?.map (between (before? none chunks i) chunks[i + 1]?) := by
  have whole (j : Nat) : chunks[j]? = kept[j]?.map (between (before? none kept j) kept[j + 1]?) :=
    h ▸ getElem?_trimAll none kept j
  -- trimming changes texts only, and it is the marks that ask for it
  have right (j : Nat) : chunks[j]?.any trimsRight = kept[j]?.any trimsRight := by
    rw [whole]
    cases kept[j]? <;> simp
  have left (j : Nat) : chunks[j]?.any trimsLeft = kept[j]?.any trimsLeft := by
    rw [whole]
    cases kept[j]? <;> simp
  have inFront : (before? none kept i).any trimsRight = (before? none chunks i).any trimsRight := by
    cases i with
    | zero => rfl
    | succ j => exact (right j).symm
  rw [whole]
  apply Option.map_congr
  intro chunk _
  exact between_congr inFront (left (i + 1)).symm chunk

/-! ## Section 2: Texts on their own -/

theorem scan_of_cut {source : String} {segs : List Segment} (h : cut source = .ok segs) :
    scan source = .ok (trimAll false (segs.filterMap ofSegment?)) := by
  rw [scan, h]
  rfl

/-- Text in which no delimiters open is scanned to itself. -/
theorem scan_text {cs : List Char} (visible : cs ≠ []) (nowhere : NowhereIn Opens cs []) :
    scan (String.ofList cs) = .ok [text (String.ofList cs) .start] := by
  have one : Segmented (Position.start.advance cs) [] .start [.text cs .start] (cs ++ []) :=
    .text visible nowhere (by simp) .done
  rw [List.append_nil] at one
  rw [scan_of_cut (cut_ofList_eq_ok.2 ⟨_, one⟩)]
  simp [ofSegment?, trimAll, trimmed]

end Chunk

/-- The texts of a cut are texts on their own. -/
theorem Segmented.scan_text {stop p q : Position} {rest source cs : List Char}
    {segs : List Segment} (h : Segmented stop rest p segs source) (member : .text cs q ∈ segs) :
    Chunk.scan (String.ofList cs) = .ok [.text (String.ofList cs) .start] := by
  induction h with
  | done => cases member
  | @text ds _ _ more visible nowhere _ _ ih =>
    rcases List.mem_cons.1 member with here | later
    · cases here
      apply Chunk.scan_text visible
      -- delimiters that open in the text alone open in front of more, too
      apply nowhere.mono
      intro ds opens
      rw [List.append_nil] at opens
      exact opens.append more
    · exact ih later
  | output _ _ ih => exact ih (by simpa using member)
  | tag _ _ _ _ ih => exact ih (by simpa using member)
  | @raw m body _ _ _ _ _ _ _ ih =>
    apply ih
    unfold rawBodySegment at member
    split at member
    · simpa using member
    · simpa using member
  | comment _ _ _ _ ih => exact ih (by simpa using member)

/-! ## Section 3: The scan -/

theorem Chunk.exists_cut_of_scan {source : String} {chunks : List Chunk}
    (h : Chunk.scan source = .ok chunks) :
    ∃ segs, cut source = .ok segs ∧ chunks = trimAll false (segs.filterMap ofSegment?) := by
  rw [Chunk.scan] at h
  obtain ⟨segs, outcome, same⟩ := eq_ok_of_bind_pure h
  exact ⟨segs, outcome, same.symm⟩

/-- The segments of a source, and the chunks that are made of them. -/
structure Chunk.Partition (source : String) (segs : List Segment) (chunks : List Chunk) : Prop where
  /-- The segments are written one behind the other from the start to the
      end of the source. -/
  segmented : Segmented (.behind source.toList) [] .start segs source.toList
  /-- Nothing is lost, and nothing there twice. -/
  whole : segs.flatMap Segment.chars = source.toList
  /-- Every segment says rightly where its first character is. -/
  placed : ∀ front s back q, segs = front ++ s :: back → s.position? = some q →
    q = .behind (front.flatMap Segment.chars)
  /-- The chunks are those of the segments, texts being trimmed where their
      neighbours ask for it. -/
  trimmed : ∀ i, chunks[i]? = (segs.filterMap Chunk.ofSegment?)[i]?.map
    (Chunk.between (Chunk.before? none chunks i) chunks[i + 1]?)
  /-- A text scanned alone is that one chunk. -/
  alone : ∀ cs q, .text cs q ∈ segs →
    Chunk.scan (String.ofList cs) = .ok [.text (String.ofList cs) .start]

/-- Scanning loses and duplicates nothing: every source that is scanned is cut
    into segments, and the chunks are made of these. -/
theorem Chunk.scan_partition {source : String} {chunks : List Chunk}
    (h : Chunk.scan source = .ok chunks) : ∃ segs, Chunk.Partition source segs chunks := by
  obtain ⟨segs, scanned, trims⟩ := exists_cut_of_scan h
  have meets := cutOf_cut source
  rw [scanned] at meets
  obtain ⟨stop, segmented⟩ := meets
  have whole : segs.flatMap Segment.chars = source.toList := by
    rw [← segmented.flatMap_chars, List.append_nil]
  have ends : stop = .behind source.toList := by
    rw [← segmented.advance_chars, whole, Position.start_advance]
  subst ends
  refine ⟨segs, segmented, whole, ?_, getElem?_of_trimAll trims, fun cs q => segmented.scan_text⟩
  rintro front s back q rfl told
  rw [← Position.start_advance]
  exact segmented.placed.position_eq told

/-- A source with blocks of both kinds, dashes, and delimiters in the blocks:
    a dash of a raw tag trims nothing, since the tag leaves no chunk. -/
def Chunk.mixedSource : String :=
  "a \n\x7b%- raw -%\x7d \x7b\x7b \x7b% endraw %\x7d\x7b\x7b y -\x7d\x7d b\x7b% comment %\x7d\x7b\x7bz\x7d\x7d\x7b%- endcomment %\x7d"

/-- The chunks of that source. -/
def Chunk.mixedChunks : List Chunk :=
  [.text "a \n" ⟨1, 1⟩, .text " \x7b\x7b " ⟨2, 12⟩,
    .output ⟨"\x7b\x7b y -\x7d\x7d", ⟨2, 28⟩, "y", false, true⟩, .text "b" ⟨2, 36⟩]

theorem Chunk.mixedSource_partition : Chunk.scan mixedSource = .ok mixedChunks ∧
    ∃ segs, Chunk.Partition mixedSource segs mixedChunks :=
  ⟨by rfl, Chunk.scan_partition (by rfl)⟩

end Stencil
