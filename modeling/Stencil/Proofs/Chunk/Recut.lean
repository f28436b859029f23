import Stencil.Proofs.Chunk.Cut

/-! # A source is cut in one way

    The judgment of how a source is cut leaves no choice: the search finds
    every output, tag and end tag that is written as the judgment has it,
    so a source that the judgment cuts to its end is cut into the same
    segments by the search. -/

namespace Stencil

open Text

/-! ## Section 1: Delimiters that are found -/

/-- What stands before a closing delimiter that is not met earlier is what the
    search goes over. -/
theorem beforeClose?_eq {close inner : List Char} (nonempty : close ≠ [])
    (h : NowhereIn (close <+: ·) inner close) (more : List Char) :
    beforeClose? close (inner ++ (close ++ more)) = some inner := by
  induction inner with
  | nil =>
    obtain ⟨c, cs, rfl⟩ := List.exists_cons_of_ne_nil nonempty
    rw [List.nil_append, List.cons_append, beforeClose?, if_pos]
    exact List.isPrefixOf_iff_prefix.2 (List.prefix_append (c :: cs) more)
  | cons c inner ih =>
    have unmet : ¬ close.isPrefixOf (c :: (inner ++ (close ++ more))) = true := by
      rw [List.isPrefixOf_iff_prefix]
      -- the delimiter would be met in `inner` and the closing one, too, with nothing behind
      intro early
      apply h.1
      have whole : c :: (inner ++ (close ++ more)) = (c :: inner ++ close) ++ more := by simp
      rw [whole] at early
      exact List.prefix_of_prefix_length_le early (List.prefix_append _ _)
        (List.suffix_append _ _).length_le
    rw [List.cons_append, beforeClose?, if_neg unmet, ih h.2]
    rfl

/-- A dash at the end is split off whatever else does not end with one. -/
theorem splitLastDash_dashIf {trims : Bool} {cs : List Char}
    (h : trims = false → cs.getLast? ≠ some '-') : splitLastDash (cs ++ dashIf trims) = (trims, cs) := by
  cases trims with
  | true => simp [splitLastDash, dashIf]
  | false =>
    rw [dashIf, if_neg Bool.false_ne_true, List.append_nil, splitLastDash, if_neg (h rfl)]

namespace Mark.Encloses

variable {m : Mark} {opens closes inner : List Char}

/-- The opening delimiter has the dash of the mark, and no other. -/
theorem splitDash_eq (h : m.Encloses opens closes inner) (plain : closes.head? ≠ some '-')
    (some_close : closes ≠ []) (more : List Char) :
    splitDash (dashIf m.trimLeft ++ ((inner ++ dashIf m.trimRight) ++ (closes ++ more))) =
      (m.trimLeft, (inner ++ dashIf m.trimRight) ++ (closes ++ more)) := by
  cases dash : m.trimLeft with
  | true => rfl
  | false =>
    apply splitDash_dashIf
    have head := h.left dash
    cases inside : inner ++ dashIf m.trimRight with
    | nil =>
      obtain ⟨c, cs, rfl⟩ := List.exists_cons_of_ne_nil some_close
      exact plain
    | cons c cs =>
      rw [inside] at head
      exact head

end Mark.Encloses

/-- What is found where an output is written. -/
theorem Mark.Encloses.delimitedAt?_output {m : Mark} {inner : List Char}
    (h : m.Encloses outputOpen outputClose inner) (more : List Char) :
    delimitedAt? (m.chars ++ more) =
      some ⟨none, inner, m.trimLeft, m.trimRight, m.chars.length⟩ := by
  have source : m.chars ++ more = outputOpen ++ (dashIf m.trimLeft ++
      ((inner ++ dashIf m.trimRight) ++ (outputClose ++ more))) := by
    rw [h.chars]
    simp
  have length : m.chars.length =
      4 + dashLength m.trimLeft + (inner ++ dashIf m.trimRight).length := by
    rw [h.chars]
    simp [outputOpen, outputClose]
    omega
  have opened : outputOpen.isPrefixOf (m.chars ++ more) = true := by
    rw [source]
    exact List.isPrefixOf_iff_prefix.2 (List.prefix_append _ _)
  have inside (cs : List Char) : (outputOpen ++ cs).drop 2 = cs := rfl
  rw [delimitedAt?, if_pos opened, length, source, inside, outputAfterOpen?,
    h.splitDash_eq (by decide) (by decide)]
  simp only [beforeClose?_eq (by decide) h.ends, Option.map_some, splitLastDash_dashIf h.right]

/-- What is found where a tag is written. -/
theorem Mark.IsTag.delimitedAt?_eq {name : String} {m : Mark} (h : m.IsTag name)
    (more : List Char) : ∃ inner, m.args.toList = trim inner ∧ delimitedAt? (m.chars ++ more) =
      some ⟨some name, inner, m.trimLeft, m.trimRight, m.chars.length⟩ := by
  obtain ⟨padding, inner, encloses, blank, word, named, argued, args⟩ := h
  refine ⟨inner, args, ?_⟩
  have source : m.chars ++ more = tagOpen ++ (dashIf m.trimLeft ++
      (((padding ++ (name.toList ++ inner)) ++ dashIf m.trimRight) ++ (tagClose ++ more))) := by
    rw [encloses.chars]
    simp
  have length : m.chars.length = 4 + dashLength m.trimLeft + padding.length +
      name.toList.length + (inner ++ dashIf m.trimRight).length := by
    rw [encloses.chars]
    simp [tagOpen, tagClose]
    omega
  have unopened : ¬ outputOpen.isPrefixOf (m.chars ++ more) = true := by
    rw [source]
    exact Bool.false_ne_true
  have opened : tagOpen.isPrefixOf (m.chars ++ more) = true := by
    rw [source]
    exact List.isPrefixOf_iff_prefix.2 (List.prefix_append _ _)
  -- what stands behind the name, and behind the padding
  let tail := (inner ++ dashIf m.trimRight) ++ (tagClose ++ more)
  have wordless : StartsWithout isWord tail := by
    simpa [tail] using argued.beforeTagClose rfl rfl m.trimRight more
  have blankless : StartsWithout isBlank (name.toList ++ tail) := by
    simpa [tail] using named.beforeTagClose rfl rfl m.trimRight more
  have ends : NowhereIn (tagClose <+: ·) (inner ++ dashIf m.trimRight) tagClose := by
    have all := encloses.ends
    rw [List.append_assoc, List.append_assoc] at all
    exact (nowhereIn_append.1 (nowhereIn_append.1 all).2).2
  have right : m.trimRight = false → inner.getLast? ≠ some '-' := by
    intro undashed last
    apply encloses.right undashed
    rw [List.getLast?_append, List.getLast?_append, last]
    rfl
  have body : ((padding ++ (name.toList ++ inner)) ++ dashIf m.trimRight) ++ (tagClose ++ more) =
      padding ++ (name.toList ++ tail) := by
    simp [tail]
  have inside (cs : List Char) : (tagOpen ++ cs).drop 2 = cs := rfl
  rw [delimitedAt?, if_neg unopened, if_pos opened, length, source, inside, tagAfterOpen?,
    encloses.splitDash_eq (by decide) (by decide), body]
  simp only [takeWhile_append blank blankless, dropWhile_append blank blankless,
    takeWhile_append word wordless, dropWhile_append word wordless, tail,
    beforeClose?_eq (by decide) ends, Option.map_some, splitLastDash_dashIf right,
    String.ofList_toList, String.length_toList]

/-- The body before an end tag is found if no end tag begins in it. -/
theorem beforeEndTag?_eq {word : String} (start : IsEndWord word) {body close more : List Char}
    (nowhere : NowhereIn (BeginsEndTag word) body (close ++ more)) (closes : IsEndTag word close) :
    beforeEndTag? word (body ++ (close ++ more)) = some (body, close.length) := by
  induction body with
  | nil =>
    have found := closes.endTagLength?_eq start more
    obtain ⟨c, cs, whole⟩ : ∃ c cs, close ++ more = c :: cs := by
      obtain ⟨_, _, _, _, rfl, -⟩ := closes
      exact ⟨_, _, rfl⟩
    rw [whole] at found
    rw [List.nil_append, whole, beforeEndTag?, found]
  | cons c body ih =>
    have missed : endTagLength? word (c :: (body ++ (close ++ more))) = none :=
      (endTagLength?_eq_none start).2 nowhere.1
    rw [List.cons_append, beforeEndTag?, missed, ih nowhere.2]
    rfl

/-! ## Section 2: The search -/

/-- Text in which no delimiters open is gone over. -/
theorem cutFrom_text {cs more : List Char} (nowhere : NowhereIn Opens cs more) (piece : List Char)
    (begin position : Position) : cutFrom piece begin position 0 (cs ++ more) =
      cutFrom (cs.reverse ++ piece) begin (position.advance cs) 0 more := by
  induction cs generalizing piece position with
  | nil => rfl
  | cons c cs ih =>
    have here : delimitedAt? (c :: (cs ++ more)) = none := delimitedAt?_eq_none.2 nowhere.1
    rw [List.cons_append, cutFrom, here]
    simp only
    rw [ih nowhere.2, List.reverse_cons, List.append_assoc]
    rfl

section

variable {m : Mark} {more : List Char} {segs : List Segment}

/-- A source that begins with a whole mark has a first character, and is
    searched on behind whatever stands in front. -/
theorem Mark.IsWhole.exists_cons (whole : m.IsWhole) (more : List Char) :
    ∃ c cs, m.chars ++ more = c :: cs ∧ (c :: cs).take m.chars.length = m.chars ∧
      cs.drop (m.chars.length - 1) = more ∧ ∀ front behind, more = front ++ behind →
        cutFrom [] (m.position.advance (m.chars ++ front)) (m.position.step c)
          (m.chars.length - 1 + front.length) cs =
            cutFrom [] (m.position.advance (m.chars ++ front))
              (m.position.advance (m.chars ++ front)) 0 behind := by
  cases chars : m.chars with
  | nil =>
    rcases whole with ⟨inner, h, -⟩ | ⟨name, padding, inner, h, -⟩
    · cases h.chars.symm.trans chars
    · cases h.chars.symm.trans chars
  | cons c cs =>
    refine ⟨c, cs ++ more, rfl, List.take_left, List.drop_left, fun front behind split => ?_⟩
    apply cutFrom_resume
    · rw [split, List.append_assoc, List.cons_append]
    · rw [List.length_append, List.length_cons, Nat.add_sub_cancel]
      omega

/-- The mark that the search makes of what it finds is the one that is
    written. -/
theorem Mark.eq_found {inner : List Char} (args : m.args.toList = trim inner) :
    (⟨String.ofList m.chars, m.position, String.ofList (trim inner), m.trimLeft, m.trimRight⟩ :
      Mark) = m := by
  rw [← args, Mark.chars, String.ofList_toList, String.ofList_toList]

theorem cutFrom_output (output : m.IsOutput)
    (later : cutFrom [] (m.position.advance m.chars) (m.position.advance m.chars) 0 more = .ok segs)
    (piece : List Char) (begin : Position) :
    cutFrom piece begin m.position 0 (m.chars ++ more) =
      .ok (textSegment piece.reverse begin ++ .output m :: segs) := by
  obtain ⟨c, cs, source, taken, -, resume⟩ := Mark.IsWhole.exists_cons (.inl output) more
  have onward := resume [] more rfl
  obtain ⟨inner, encloses, args⟩ := output
  have found := encloses.delimitedAt?_output more
  rw [List.append_nil, List.length_nil, Nat.add_zero, later] at onward
  rw [source] at found ⊢
  rw [cutFrom, found]
  simp only [taken, Mark.eq_found args, onward]
  rfl

theorem cutFrom_tag {name : String} (tag : m.IsTag name) (notRaw : name ≠ "raw")
    (notComment : name ≠ "comment")
    (later : cutFrom [] (m.position.advance m.chars) (m.position.advance m.chars) 0 more = .ok segs)
    (piece : List Char) (begin : Position) :
    cutFrom piece begin m.position 0 (m.chars ++ more) =
      .ok (textSegment piece.reverse begin ++ .tag name m :: segs) := by
  obtain ⟨c, cs, source, taken, -, resume⟩ := Mark.IsWhole.exists_cons (.inr ⟨name, tag⟩) more
  have onward := resume [] more rfl
  obtain ⟨inner, args, found⟩ := tag.delimitedAt?_eq more
  rw [List.append_nil, List.length_nil, Nat.add_zero, later] at onward
  rw [source] at found ⊢
  rw [cutFrom, found]
  simp only [taken, Mark.eq_found args, onward]
  rfl

section

variable {body close : List Char}
  (later : cutFrom [] (m.position.advance (m.chars ++ (body ++ close)))
    (m.position.advance (m.chars ++ (body ++ close))) 0 more = .ok segs)

include later

theorem cutFrom_raw (tag : m.IsTag "raw")
    (nowhere : NowhereIn (BeginsEndTag "endraw") body (close ++ more))
    (closes : IsEndTag "endraw" close) (piece : List Char) (begin : Position) :
    cutFrom piece begin m.position 0 (m.chars ++ (body ++ (close ++ more))) =
      .ok (textSegment piece.reverse begin ++ .rawOpen m ::
        (rawBodySegment body (m.position.advance m.chars) ++ .rawClose close :: segs)) := by
  obtain ⟨c, cs, source, taken, behind, resume⟩ :=
    Mark.IsWhole.exists_cons (.inr ⟨"raw", tag⟩) (body ++ (close ++ more))
  have onward := resume (body ++ close) more (by simp)
  obtain ⟨inner, args, found⟩ := tag.delimitedAt?_eq (body ++ (close ++ more))
  have ended := beforeEndTag?_eq isEndWord_endraw nowhere closes
  -- the search skips the tag, the body and the end tag, one length behind the other
  rw [later, List.length_append, ← Nat.add_assoc, Position.advance_append,
    Position.advance_append] at onward
  rw [source] at found ⊢
  rw [cutFrom, found]
  simp only [taken, Mark.eq_found args, behind, ended, List.drop_left, List.take_left, onward]
  show Except.ok _ = _
  rw [List.append_assoc, List.cons_append]
  rfl

theorem cutFrom_comment (tag : m.IsTag "comment")
    (nowhere : NowhereIn (BeginsEndTag "endcomment") body (close ++ more))
    (closes : IsEndTag "endcomment" close) (piece : List Char) (begin : Position) :
    cutFrom piece begin m.position 0 (m.chars ++ (body ++ (close ++ more))) =
      .ok (textSegment piece.reverse begin ++ .comment (m.chars ++ (body ++ close)) :: segs) := by
  obtain ⟨c, cs, source, taken, behind, resume⟩ :=
    Mark.IsWhole.exists_cons (.inr ⟨"comment", tag⟩) (body ++ (close ++ more))
  have onward := resume (body ++ close) more (by simp)
  obtain ⟨inner, args, found⟩ := tag.delimitedAt?_eq (body ++ (close ++ more))
  have ended := beforeEndTag?_eq isEndWord_endcomment nowhere closes
  have block : (body ++ (close ++ more)).take (body.length + close.length) = body ++ close := by
    rw [← List.append_assoc, List.take_left' List.length_append]
  rw [later, List.length_append, ← Nat.add_assoc] at onward
  rw [source] at found ⊢
  rw [cutFrom, found]
  simp only [taken, behind, ended, block, onward]
  rfl

end

end

section

variable {stop p : Position} {segs : List Segment} {source : List Char}

/-- The search cuts as the judgment has it.  What it has gone over before is
    text. -/
theorem Segmented.cutFrom_eq (h : Segmented stop [] p segs source) (piece : List Char)
    (begin : Position)
    (fresh : (piece = [] ∧ begin = p) ∨ ∀ ds q, segs.head? ≠ some (.text ds q)) :
    cutFrom piece begin p 0 source = .ok (textSegment piece.reverse begin ++ segs) := by
  induction h generalizing piece begin with
  | done => rw [cutFrom, List.append_nil]
  | @text cs p segs more visible nowhere other _ ih =>
    -- no text has been gone over, since no text stands behind a text
    obtain ⟨rfl, rfl⟩ : piece = [] ∧ begin = p :=
      fresh.resolve_right fun none => none cs p rfl
    have later := ih cs.reverse begin (.inr other)
    rw [cutFrom_text nowhere, List.append_nil, later, List.reverse_reverse, textSegment,
      if_neg (by simpa using visible)]
    rfl
  | output output _ ih => exact cutFrom_output output (ih [] _ (.inl ⟨rfl, rfl⟩)) piece begin
  | tag tag notRaw notComment _ ih =>
    exact cutFrom_tag tag notRaw notComment (ih [] _ (.inl ⟨rfl, rfl⟩)) piece begin
  | raw tag nowhere closes _ ih =>
    exact cutFrom_raw (ih [] _ (.inl ⟨rfl, rfl⟩)) tag nowhere closes piece begin
  | comment tag nowhere closes _ ih =>
    exact cutFrom_comment (ih [] _ (.inl ⟨rfl, rfl⟩)) tag nowhere closes piece begin

end

/-- The search and the judgment agree on how a source is cut. -/
theorem cut_eq_ok {source : String} {segs : List Segment} :
    cut source = .ok segs ↔ ∃ stop, Segmented stop [] .start segs source.toList := by
  constructor
  · intro found
    have meets := cutOf_cut source
    rwa [found] at meets
  · rintro ⟨stop, h⟩
    exact h.cutFrom_eq [] .start (.inl ⟨rfl, rfl⟩)

theorem cut_ofList_eq_ok {cs : List Char} {segs : List Segment} :
    cut (String.ofList cs) = .ok segs ↔ ∃ stop, Segmented stop [] .start segs cs := by
  rw [cut_eq_ok, String.toList_ofList]

end Stencil
