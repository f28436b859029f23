import Stencil.Proofs.Chunk.Spacing
import Stencil.Proofs.Template.Collection

/-! # Verbatim blocks

    What stands in a raw block is output as it is, whatever delimiters begin
    or end in it: the block goes on up to the first end tag, and no end tag
    can begin in its body and end behind it, since an opening brace is the
    first character of an end tag and no other.  A comment is left out. -/

namespace Stencil

open Text

/-! ## Section 1: Opening braces -/

/-- The only opening brace of an end tag is its first character. -/
theorem IsEndTag.exists_open {word : String} {cs : List Char} (plain : '\x7b' ∉ word.toList)
    (h : IsEndTag word cs) : ∃ back, cs = '\x7b' :: back ∧ '\x7b' ∉ back := by
  obtain ⟨left, padding, behind, right, rfl, blank, blank'⟩ := h
  have dashed (trims : Bool) : '\x7b' ∉ dashIf trims :=
    fun member => ne_of_mem_dashIf (by decide) trims _ member rfl
  have spaced {cs : List Char} (blank : ∀ c ∈ cs, isBlank c = true) : '\x7b' ∉ cs :=
    fun member => ne_of_isBlank (blank _ member) (by decide) rfl
  refine ⟨'%' :: (dashIf left ++ (padding ++ (word.toList ++
    (behind ++ (dashIf right ++ tagClose))))), rfl, ?_⟩
  simp [tagClose, dashed, spaced blank, spaced blank', plain]

/-- Is there an end tag of the word somewhere in a text? -/
def HoldsEndTag (word : String) (cs : List Char) : Prop :=
  ∃ tag, IsEndTag word tag ∧ tag <:+: cs

/-- An end tag begins in a text in front of another one only if it ends in the
    text, too. -/
theorem BeginsEndTag.inside {word : String} (plain : '\x7b' ∉ word.toList)
    {cs close more : List Char} (visible : cs ≠ []) (closes : IsEndTag word close)
    (h : BeginsEndTag word (cs ++ (close ++ more))) : HoldsEndTag word cs := by
  obtain ⟨tag, behind, whole, ends⟩ := h
  refine ⟨tag, ends, ?_⟩
  rcases List.append_eq_append_iff.1 whole with ⟨beyond, rfl, rest⟩ | ⟨beyond, rfl, -⟩
  · -- the rest of the tag is empty, or begins with the brace of the other tag
    obtain ⟨c, cs, rfl⟩ := List.exists_cons_of_ne_nil visible
    obtain ⟨back, first, unbraced⟩ := ends.exists_open plain
    obtain ⟨back', rfl, -⟩ := closes.exists_open plain
    cases beyond with
    | nil => simp
    | cons d beyond =>
      have brace : '\x7b' = d := (List.cons.inj rest).1
      rw [List.cons_append, List.cons.injEq] at first
      rw [← first.2, ← brace] at unbraced
      exact absurd (by simp) unbraced
  · exact (List.prefix_append tag beyond).isInfix

theorem nowhereIn_beginsEndTag {word : String} (plain : '\x7b' ∉ word.toList)
    {cs close : List Char} (closes : IsEndTag word close) (free : ¬ HoldsEndTag word cs)
    (more : List Char) : NowhereIn (BeginsEndTag word) cs (close ++ more) := by
  induction cs with
  | nil => trivial
  | cons c cs ih =>
    constructor
    · exact fun begins => free (begins.inside plain (List.cons_ne_nil c cs) closes)
    · apply ih
      rintro ⟨tag, ends, inside⟩
      exact free ⟨tag, ends, inside.trans (List.suffix_cons c cs).isInfix⟩

theorem not_holdsEndTag {word : String} (plain : '\x7b' ∉ word.toList) {cs more : List Char}
    (h : NowhereIn (BeginsEndTag word) cs more) : ¬ HoldsEndTag word cs := by
  rintro ⟨tag, ends, inside⟩
  obtain ⟨back, rfl, -⟩ := ends.exists_open plain
  exact h.not_infix (fun behind => ⟨_, behind, rfl, ends⟩) (List.cons_ne_nil _ back) inside

/-! ## Section 2: Bare tags -/

/-- The tag of a name without arguments, written with a space on each side. -/
def bareTag (name : String) : String :=
  "\x7b% " ++ name ++ " %\x7d"

/-- The mark of a bare tag. -/
def bareMark (name : String) (position : Position) : Mark :=
  ⟨bareTag name, position, "", false, false⟩

theorem toList_bareTag (name : String) :
    (bareTag name).toList = tagOpen ++ (' ' :: (name.toList ++ ' ' :: tagClose)) := by
  simp [bareTag, tagOpen, tagClose]

theorem isTag_bareMark (name : String) {c : Char} {cs : List Char} (chars : name.toList = c :: cs)
    (first : isBlank c = false) (word : name.toList.all isWord = true)
    (position : Position) : (bareMark name position).IsTag name := by
  -- a word and its blanks have no brace, so the tag ends where its braces are
  have ends : NowhereIn (tagClose <+: ·) (' ' :: (name.toList ++ [' '])) tagClose := by
    apply nowhereIn_tagClose
    simp only [List.mem_cons, List.mem_append]
    rintro d (rfl | member | rfl | ⟨⟨⟩⟩)
    · exact .inl (by decide)
    · exact .inr (List.all_eq_true.1 word d member)
    · exact .inl (by decide)
  refine ⟨[' '], [' '], ⟨?_, ?_, ?_, ?_⟩, ?_,
    List.all_eq_true.1 word, ?_, ?_, rfl⟩
  · show (bareTag name).toList = _
    rw [toList_bareTag]
    simp [bareMark, dashIf]
  · simp
  · intro _ last
    rw [← List.append_assoc, List.getLast?_concat] at last
    cases last
  · simpa [bareMark, dashIf] using ends
  · rw [List.forall_mem_singleton]
    decide
  · rw [chars]
    exact startsWithout_cons.2 first
  · exact startsWithout_cons.2 (by decide)

theorem isEndTag_bareTag (word : String) : IsEndTag word (bareTag word).toList := by
  refine ⟨false, [' '], [' '], false, ?_, ?_, ?_⟩
  · rw [toList_bareTag]
    rfl
  · rw [List.forall_mem_singleton]
    decide
  · rw [List.forall_mem_singleton]
    decide

/-! ## Section 3: Templates of texts -/

/-- Some characters as a text at a position, or as none if there are no
    characters. -/
def shownText (cs : List Char) (position : Position) : List (String × Position) :=
  if cs.isEmpty then [] else [(String.ofList cs, position)]

/-- Texts as chunks. -/
def textChunks (texts : List (String × Position)) : List Chunk :=
  texts.map fun t => .text t.1 t.2

theorem join_shownText (cs : List Char) (position : Position) :
    String.join ((shownText cs position).map (·.1)) = String.ofList cs := by
  cases cs with
  | nil => rfl
  | cons c cs => simp [shownText]

theorem filterMap_textSegment (cs : List Char) (position : Position) :
    (textSegment cs position).filterMap Chunk.ofSegment? = textChunks (shownText cs position) := by
  cases cs <;> rfl

theorem filterMap_rawBodySegment (cs : List Char) (position : Position) :
    (rawBodySegment cs position).filterMap Chunk.ofSegment? =
      textChunks (shownText cs position) := by
  cases cs <;> rfl

theorem textChunks_append (texts more : List (String × Position)) :
    textChunks (texts ++ more) = textChunks texts ++ textChunks more :=
  List.map_append

theorem textChunks_cons (t : String × Position) (texts : List (String × Position)) :
    textChunks (t :: texts) = .text t.1 t.2 :: textChunks texts := rfl

/-- Texts ask for no trimming. -/
theorem trimAll_textChunks (texts : List (String × Position)) :
    Chunk.trimAll false (textChunks texts) = textChunks texts := by
  induction texts with
  | nil => rfl
  | cons t texts ih =>
    have asks : (textChunks texts).head?.any Chunk.trimsLeft = false := by
      cases texts <;> rfl
    rw [textChunks_cons, Chunk.trimAll, asks, ih]
    simp [Chunk.trimmed]

theorem allChunks_texts (texts : List (String × Position)) :
    Piece.allChunks (texts.map fun t => .text t.1 t.2) = textChunks texts := by
  induction texts with
  | nil => rfl
  | cons t texts ih =>
    rw [List.map_cons, Piece.allChunks, ih]
    rfl

theorem nodes_texts (texts : List (String × Position)) :
    Piece.nodes (texts.map fun t => .text t.1 t.2) =
      .ok ((texts.map (·.1)).map Node.text) := by
  induction texts with
  | nil => rfl
  | cons t texts ih =>
    rw [List.map_cons, Piece.nodes, ih]
    rfl

/-- A source of which only texts are left is compiled to their nodes. -/
theorem compile_texts {source : String} {segs : List Segment} {texts : List (String × Position)}
    (cuts : cut source = .ok segs) (left : segs.filterMap Chunk.ofSegment? = textChunks texts) :
    Template.compile source = .ok ⟨(texts.map (·.1)).map Node.text, source⟩ := by
  refine Template.compile_of_pieces ?_ (nodes_texts texts)
  rw [allChunks_texts, Chunk.scan_of_cut cuts, left, trimAll_textChunks]

namespace Node

open Render

variable {engine : Engine} {run : Run}

theorem writes_texts (texts : List String) (run : Run) :
    Writes (renderAll engine (texts.map .text)) run .none texts := by
  induction texts generalizing run with
  | nil => exact writes_nil run
  | cons t texts ih =>
    have here : Writes (render engine (.text t)) run.next .none [t] := by
      rw [render]
      exact (writes_write t run.next).bind fun mid _ => writes_pure Signal.none mid
    exact writes_cons here fun mid _ => ih mid

end Node

/-! ## Section 4: Blocks -/

/-- Does a source, wherever it is rendered, come to nothing but this text? -/
def Template.Shows (source text : String) : Prop :=
  ∃ t, compile source = .ok t ∧ ∀ (engine : Engine) (scope : Scope),
    (t.renderIn engine scope).result = .ok text

theorem Template.shows_texts {source : String} {segs : List Segment}
    {texts : List (String × Position)} (cuts : cut source = .ok segs)
    (left : segs.filterMap Chunk.ofSegment? = textChunks texts) :
    Shows source (String.join (texts.map (·.1))) := by
  refine ⟨_, compile_texts cuts left, fun engine scope => ?_⟩
  apply result_of_writes
  exact Node.writes_texts _ _

section

variable {a s b : List Char}

/-- What stands behind a block, without an opening brace, is a text. -/
theorem segmented_text {cs : List Char} (plain : '\x7b' ∉ cs) (position : Position) :
    Segmented (position.advance cs) [] position (textSegment cs position) cs := by
  have alone : Segmented (position.advance cs) [] position (textSegment cs position ++ [])
      (cs ++ []) :=
    .behindText (nowhereIn_opens plain []) nofun .done
  rwa [List.append_nil, List.append_nil] at alone

variable (front : '\x7b' ∉ a) (behind : '\x7b' ∉ b)
include front behind

/-- The body of a raw block is a text, and the block ends in front of what
    stands behind its end tag. -/
theorem segmented_raw (free : ¬ HoldsEndTag "endraw" s) : ∃ stop p q,
    Segmented stop [] .start
      (textSegment a .start ++ .rawOpen (bareMark "raw" (Position.start.advance a)) ::
        (rawBodySegment s p ++ .rawClose (bareTag "endraw").toList :: textSegment b q))
      (a ++ ((bareTag "raw").toList ++ (s ++ ((bareTag "endraw").toList ++ b)))) := by
  have tag := isTag_bareMark "raw" rfl rfl rfl (Position.start.advance a)
  have closes := isEndTag_bareTag "endraw"
  have body := nowhereIn_beginsEndTag (by decide) closes free b
  exact ⟨_, _, _, .behindText (nowhereIn_opens front _) nofun
    (.raw tag body closes (segmented_text behind _))⟩

/-- A comment, with its tags, is one segment. -/
theorem segmented_comment (free : ¬ HoldsEndTag "endcomment" s) : ∃ stop block q,
    Segmented stop [] .start (textSegment a .start ++ .comment block :: textSegment b q)
      (a ++ ((bareTag "comment").toList ++ (s ++ ((bareTag "endcomment").toList ++ b)))) := by
  have tag := isTag_bareMark "comment" rfl rfl rfl (Position.start.advance a)
  have closes := isEndTag_bareTag "endcomment"
  have body := nowhereIn_beginsEndTag (by decide) closes free b
  exact ⟨_, _, _, .behindText (nowhereIn_opens front _) nofun
    (.comment tag body closes (segmented_text behind _))⟩

end

namespace Template

section

variable {a b : String} (front : '\x7b' ∉ a.toList) (behind : '\x7b' ∉ b.toList) {s : String}
include front behind

theorem shows_raw (free : ¬ HoldsEndTag "endraw" s.toList) :
    Shows (a ++ bareTag "raw" ++ s ++ bareTag "endraw" ++ b) (a ++ s ++ b) := by
  obtain ⟨stop, p, q, segmented⟩ := segmented_raw front behind free
  let texts := shownText a.toList .start ++ (shownText s.toList p ++ shownText b.toList q)
  have whole : String.join (texts.map (·.1)) = a ++ s ++ b := by
    simp [texts, join_shownText, String.append_assoc]
  rw [← whole]
  apply shows_texts (cut_eq_ok.2 ⟨stop, by simpa using segmented⟩)
  rw [List.filterMap_append, List.filterMap_cons_none rfl, List.filterMap_append,
    List.filterMap_cons_none rfl, filterMap_textSegment, filterMap_rawBodySegment,
    filterMap_textSegment, textChunks_append, textChunks_append]

theorem shows_comment (free : ¬ HoldsEndTag "endcomment" s.toList) :
    Shows (a ++ bareTag "comment" ++ s ++ bareTag "endcomment" ++ b) (a ++ b) := by
  obtain ⟨stop, block, q, segmented⟩ := segmented_comment front behind free
  let texts := shownText a.toList .start ++ shownText b.toList q
  have whole : String.join (texts.map (·.1)) = a ++ b := by
    simp [texts, join_shownText]
  rw [← whole]
  apply shows_texts (cut_eq_ok.2 ⟨stop, by simpa using segmented⟩)
  rw [List.filterMap_append, List.filterMap_cons_none rfl, filterMap_textSegment,
    filterMap_textSegment, textChunks_append]

end

/-- Between texts without opening braces, a raw block shows its body and a
    comment nothing, whatever the body is, if no end tag of the block stands
    in it. -/
theorem blocks_show {a b : String} (front : '\x7b' ∉ a.toList) (behind : '\x7b' ∉ b.toList)
    (s : String) :
    (¬ HoldsEndTag "endraw" s.toList →
      Shows (a ++ "\x7b% raw %\x7d" ++ s ++ "\x7b% endraw %\x7d" ++ b) (a ++ s ++ b)) ∧
    (¬ HoldsEndTag "endcomment" s.toList →
      Shows (a ++ "\x7b% comment %\x7d" ++ s ++ "\x7b% endcomment %\x7d" ++ b) (a ++ b)) :=
  ⟨shows_raw front behind, shows_comment front behind⟩

/-- A body full of delimiters, none of which closes the block. -/
def misleadingBody : String :=
  "\x7b\x7b x \x7b%- if %\x7d\x7b% endraw -\x7d\x7b%- endcomment x %\x7d \x7b%"

theorem misleadingBody_holds_no_end : ¬ HoldsEndTag "endraw" misleadingBody.toList ∧
    ¬ HoldsEndTag "endcomment" misleadingBody.toList :=
  ⟨not_holdsEndTag (by decide) (beforeEndTag?_eq_none isEndWord_endraw (by rfl)),
    not_holdsEndTag (by decide) (beforeEndTag?_eq_none isEndWord_endcomment (by rfl))⟩

theorem misleadingBody_shows :
    '\x7b' ∉ "\x7d\x7d ".toList ∧ '\x7b' ∉ " %\x7d".toList ∧
    ¬ HoldsEndTag "endraw" misleadingBody.toList ∧
    ¬ HoldsEndTag "endcomment" misleadingBody.toList ∧
    Shows ("\x7d\x7d " ++ "\x7b% raw %\x7d" ++ misleadingBody ++ "\x7b% endraw %\x7d" ++ " %\x7d")
      ("\x7d\x7d " ++ misleadingBody ++ " %\x7d") ∧
    Shows ("\x7d\x7d " ++ "\x7b% comment %\x7d" ++ misleadingBody ++ "\x7b% endcomment %\x7d" ++
      " %\x7d") ("\x7d\x7d " ++ " %\x7d") := by
  have front : '\x7b' ∉ "\x7d\x7d ".toList := by decide
  have behind : '\x7b' ∉ " %\x7d".toList := by decide
  obtain ⟨noRaw, noComment⟩ := misleadingBody_holds_no_end
  obtain ⟨raw, comment⟩ := blocks_show front behind misleadingBody
  exact ⟨front, behind, noRaw, noComment, raw noRaw, comment noComment⟩

end Template

end Stencil
