import Mathlib.Data.List.Induction
import Stencil.Proofs.Chunk.Delimiter

/-! # How a source is cut

    A source is cut into segments that are written one behind the other:
    text in which no delimiters open, outputs, tags, and the blocks of raw
    and comment tags as far as their first end tag.  The judgment says
    where the cut starts and stops, so that positions are part of it.

    The search for the segments meets the judgment.  It stops early at a
    raw or comment tag without an end tag, and what it has cut up to there
    meets it too. -/

namespace Stencil

open Text

/-! ## Section 1: Positions -/

/-- The position behind some characters, those behind the last line feed
    being counted for the column. -/
def Text.Position.behind (before : List Char) : Position :=
  ⟨before.count '\n' + 1, (before.reverse.takeWhile (· ≠ '\n')).length + 1⟩

theorem Text.Position.advance_append (p : Position) (cs ds : List Char) :
    p.advance (cs ++ ds) = (p.advance cs).advance ds :=
  List.foldl_append

/-- Stepping over the characters counts them. -/
theorem Text.Position.start_advance (cs : List Char) : Position.start.advance cs = .behind cs := by
  induction cs using List.reverseRecOn with
  | nil => rfl
  | append_singleton cs c ih =>
    rw [advance_append, ih]
    show (Position.behind cs).step c = _
    by_cases feed : c = '\n'
    · subst feed
      simp [Position.step, Position.behind]
    · simp [Position.step, Position.behind, feed]

/-! ## Section 2: Segments -/

namespace Segment

/-- The characters of a segment. -/
def chars : Segment → List Char
  | text cs _ => cs
  | output m => m.chars
  | tag _ m => m.chars
  | rawOpen m => m.chars
  | rawBody cs _ => cs
  | rawClose cs => cs
  | comment cs => cs

/-- Where a segment says that it starts, if it says so. -/
def position? : Segment → Option Position
  | text _ position => some position
  | output m => some m.position
  | tag _ m => some m.position
  | rawOpen m => some m.position
  | rawBody _ position => some position
  | rawClose _ => none
  | comment _ => none

end Segment

/-- The body of a raw block, if it has one. -/
def rawBodySegment (body : List Char) (position : Position) : List Segment :=
  if body.isEmpty then [] else [.rawBody body position]

/-- The ways to cut a source that starts at a position.  What is cut stops at
    `stop`, in front of `rest`. -/
inductive Segmented (stop : Position) (rest : List Char) :
    Position → List Segment → List Char → Prop
  | done : Segmented stop rest stop [] rest
  | text {cs : List Char} {p : Position} {segs : List Segment} {more : List Char} :
      cs ≠ [] → NowhereIn Opens cs more → (∀ ds q, segs.head? ≠ some (.text ds q)) →
      Segmented stop rest (p.advance cs) segs more →
      Segmented stop rest p (.text cs p :: segs) (cs ++ more)
  | output {m : Mark} {segs : List Segment} {more : List Char} : m.IsOutput →
      Segmented stop rest (m.position.advance m.chars) segs more →
      Segmented stop rest m.position (.output m :: segs) (m.chars ++ more)
  | tag {name : String} {m : Mark} {segs : List Segment} {more : List Char} : m.IsTag name →
      name ≠ "raw" → name ≠ "comment" →
      Segmented stop rest (m.position.advance m.chars) segs more →
      Segmented stop rest m.position (.tag name m :: segs) (m.chars ++ more)
  | raw {m : Mark} {body close : List Char} {segs : List Segment} {more : List Char} :
      m.IsTag "raw" → NowhereIn (BeginsEndTag "endraw") body (close ++ more) →
      IsEndTag "endraw" close →
      Segmented stop rest (m.position.advance (m.chars ++ (body ++ close))) segs more →
      Segmented stop rest m.position
        (.rawOpen m :: (rawBodySegment body (m.position.advance m.chars) ++ .rawClose close :: segs))
        (m.chars ++ (body ++ (close ++ more)))
  | comment {m : Mark} {body close : List Char} {segs : List Segment} {more : List Char} :
      m.IsTag "comment" → NowhereIn (BeginsEndTag "endcomment") body (close ++ more) →
      IsEndTag "endcomment" close →
      Segmented stop rest (m.position.advance (m.chars ++ (body ++ close))) segs more →
      Segmented stop rest m.position (.comment (m.chars ++ (body ++ close)) :: segs)
        (m.chars ++ (body ++ (close ++ more)))

section

variable {stop p : Position} {rest source : List Char} {segs : List Segment}

theorem flatMap_rawBodySegment (body : List Char) (position : Position) :
    (rawBodySegment body position).flatMap Segment.chars = body := by
  unfold rawBodySegment
  split
  next empty => rw [List.isEmpty_iff.1 empty]; rfl
  next => simp [Segment.chars]

/-- Nothing is lost, and nothing cut twice. -/
theorem Segmented.flatMap_chars (h : Segmented stop rest p segs source) :
    segs.flatMap Segment.chars ++ rest = source := by
  induction h with
  | done => rfl
  | text _ _ _ _ ih => simp [Segment.chars, ih]
  | output _ _ ih => simp [Segment.chars, ih]
  | tag _ _ _ _ ih => simp [Segment.chars, ih]
  | raw _ _ _ _ ih => simp [Segment.chars, flatMap_rawBodySegment, ih]
  | comment _ _ _ _ ih => simp [Segment.chars, ih]

/-- Text goes in front of what is no text. -/
theorem Segmented.behindText {piece more : List Char} (nowhere : NowhereIn Opens piece more)
    (other : ∀ ds q, segs.head? ≠ some (.text ds q))
    (h : Segmented stop rest (p.advance piece) segs more) :
    Segmented stop rest p (textSegment piece p ++ segs) (piece ++ more) := by
  unfold textSegment
  split
  next empty =>
    rw [List.isEmpty_iff.1 empty] at h ⊢
    exact h
  next visible =>
    apply Segmented.text _ nowhere other h
    simpa using visible

end

/-! ## Section 3: The search -/

/-- Skipping characters is going on behind them. -/
theorem cutFrom_skip (piece : List Char) (begin position : Position) (skip : Nat)
    (cs : List Char) : cutFrom piece begin position skip cs =
      cutFrom piece begin (position.advance (cs.take skip)) 0 (cs.drop skip) := by
  induction skip generalizing position cs with
  | zero => rfl
  | succ skip ih =>
    cases cs with
    | nil => simp [cutFrom]
    | cons c cs => exact ih (position.step c) cs

/-- Is the failure that of a tag for which no end tag stands in what comes
    after it? -/
structure Unterminated (word : String) (m : Mark) (after : List Char) (f : Failure) : Prop where
  tag : m.IsTag word
  endless : NowhereIn (BeginsEndTag ("end" ++ word)) after []
  failure : f = (Fault.malformed (.unterminated word)).failure.blame m.place

/-- Is this what comes of cutting a source that starts at a position?  A
    failure has a tag to blame, and what stands in front of it is cut. -/
def CutOf (p : Position) (source : List Char) : Except Failure (List Segment) → Prop
  | .ok segs => ∃ stop, Segmented stop [] p segs source
  | .error f => ∃ segs m after, Segmented m.position (m.chars ++ after) p segs source ∧
      (Unterminated "raw" m after f ∨ Unterminated "comment" m after f)

/-- What is cut behind a text is put behind its segment. -/
theorem CutOf.behindText {begin p q : Position} {piece source more : List Char}
    {out : Except Failure (List Segment)} {grow : List Segment → List Segment} (h : CutOf q more out)
    (nowhere : NowhereIn Opens piece source) (starts : begin.advance piece = p)
    (other : ∀ segs ds r, (grow segs).head? ≠ some (.text ds r))
    (step : ∀ stop rest segs, Segmented stop rest q segs more →
      Segmented stop rest p (grow segs) source) :
    CutOf begin (piece ++ source)
      (do let segs ← out; return textSegment piece begin ++ grow segs) := by
  subst starts
  cases out with
  | ok segs =>
    obtain ⟨stop, cut⟩ := h
    exact ⟨stop, (step stop [] segs cut).behindText nowhere (other segs)⟩
  | error f =>
    obtain ⟨segs, m, after, cut, failed⟩ := h
    exact ⟨_, m, after, (step _ _ segs cut).behindText nowhere (other segs), failed⟩

/-- In front of a tag without an end tag, there is only the text to cut. -/
theorem CutOf.stopped {begin : Position} {piece source after : List Char} {m : Mark} {f : Failure}
    (nowhere : NowhereIn Opens piece source) (starts : begin.advance piece = m.position)
    (here : source = m.chars ++ after)
    (failed : Unterminated "raw" m after f ∨ Unterminated "comment" m after f) :
    CutOf begin (piece ++ source) (.error f) := by
  subst here
  have cut : Segmented m.position (m.chars ++ after) (begin.advance piece) []
      (m.chars ++ after) := by
    rw [starts]
    exact .done
  exact ⟨_, m, after, cut.behindText nowhere (by simp), failed⟩

/-- The search goes on behind the characters that stand in front. -/
theorem cutFrom_resume {c : Char} {cs front more : List Char} {skip : Nat} (position : Position)
    (source : c :: cs = front ++ more) (length : front.length = skip + 1) :
    cutFrom [] (position.advance front) (position.step c) skip cs =
      cutFrom [] (position.advance front) (position.advance front) 0 more := by
  cases front with
  | nil => simp at length
  | cons d front =>
    rw [List.cons_append, List.cons.injEq] at source
    obtain ⟨rfl, rfl⟩ := source
    have short : front.length = skip := by simpa using length
    rw [cutFrom_skip, List.take_left' short, List.drop_left' short]
    rfl

section

variable {c : Char} {cs : List Char}

/-- What is left of a source is shorter, so by induction it is cut. -/
theorem cutOf_resume (position : Position) {front more : List Char} {skip : Nat}
    (ih : ∀ (p : Position) (more : List Char), more.length < (c :: cs).length →
      CutOf p more (cutFrom [] p p 0 more))
    (here : c :: cs = front ++ more) (length : front.length = skip + 1) :
    CutOf (position.advance front) more
      (cutFrom [] (position.advance front) (position.step c) skip cs) := by
  rw [cutFrom_resume position here length]
  apply ih
  rw [here, List.length_append]
  omega

/-- Behind a tag with a body and an end tag, too. -/
theorem cutOf_resumeBlock (position : Position) {m : Mark} {body close more : List Char} {n : Nat}
    (ih : ∀ (p : Position) (more : List Char), more.length < (c :: cs).length →
      CutOf p more (cutFrom [] p p 0 more))
    (source : c :: cs = m.chars ++ cs.drop n) (long : m.chars.length = n + 1)
    (same : cs.drop n = body ++ (close ++ more)) :
    CutOf (position.advance (m.chars ++ (body ++ close))) more
      (cutFrom [] (position.advance (m.chars ++ (body ++ close))) (position.step c)
        (n + body.length + close.length) cs) := by
  apply cutOf_resume position ih
  · rw [source, same]
    simp only [List.append_assoc]
  · simp only [List.length_append, long]
    omega

/-- A text is ended by what is found behind it, and the search goes on there. -/
theorem cutFrom_found {piece : List Char} {begin : Position} {d : Delimited}
    (nowhere : NowhereIn Opens piece.reverse (c :: cs))
    (found : delimitedAt? (c :: cs) = some d)
    (ih : ∀ (p : Position) (more : List Char), more.length < (c :: cs).length →
      CutOf p more (cutFrom [] p p 0 more)) :
    CutOf begin (piece.reverse ++ c :: cs)
      (cutFrom piece begin (begin.advance piece.reverse) 0 (c :: cs)) := by
  generalize starts : begin.advance piece.reverse = position
  have fits := delimitedAt?_fits found
  obtain ⟨source, long⟩ := fits.split
  let m := d.mark position (c :: cs)
  have chars : (c :: cs).take d.length = m.chars := (d.chars_mark position (c :: cs)).symm
  rw [chars] at source long
  have onward := cutOf_resume position ih source long
  have folded : (⟨String.ofList ((c :: cs).take d.length), position, String.ofList (trim d.args),
    d.trimLeft, d.trimRight⟩ : Mark) = m := rfl
  rw [cutFrom, found]
  simp only
  rw [folded, chars]
  -- an output, a raw block, a comment and any other tag are told apart by the name
  split
  next unnamed =>
    apply onward.behindText nowhere starts (by simp)
    intro stop rest segs h
    rw [source]
    exact Segmented.output (fits.output unnamed position) h
  next named =>
    have raw : m.IsTag "raw" := fits.tag "raw" named position
    split
    next endless =>
      apply CutOf.stopped nowhere starts source
      exact .inl ⟨raw, beforeEndTag?_eq_none isEndWord_endraw endless, rfl⟩
    next body n ended =>
      obtain ⟨close, more, same, rfl, tag, free⟩ := beforeEndTag?_eq_some isEndWord_endraw ended
      have closing : ((cs.drop (d.length - 1)).drop body.length).take close.length = close := by
        rw [same, List.drop_left, List.take_left]
      rw [closing, ← Position.advance_append, ← Position.advance_append]
      simp only [List.append_assoc, List.cons_append]
      apply (cutOf_resumeBlock position ih source long same).behindText nowhere starts (by simp)
      intro stop rest segs h
      rw [source, same]
      exact Segmented.raw raw free tag h
  next named =>
    have comment : m.IsTag "comment" := fits.tag "comment" named position
    split
    next endless =>
      apply CutOf.stopped nowhere starts source
      exact .inr ⟨comment, beforeEndTag?_eq_none isEndWord_endcomment endless, rfl⟩
    next body n ended =>
      obtain ⟨close, more, same, rfl, tag, free⟩ := beforeEndTag?_eq_some isEndWord_endcomment ended
      have closing : (cs.drop (d.length - 1)).take (body.length + close.length) = body ++ close := by
        rw [same, ← List.append_assoc, List.take_left' List.length_append]
      rw [closing]
      apply (cutOf_resumeBlock position ih source long same).behindText nowhere starts (by simp)
      intro stop rest segs h
      rw [source, same]
      exact Segmented.comment comment free tag h
  next name notRaw notComment named =>
    apply onward.behindText nowhere starts (by simp)
    intro stop rest segs h
    rw [source]
    exact Segmented.tag (fits.tag name named position) notRaw notComment h

end

/-- The search cuts as the judgment says.  What has been read of a text has no
    delimiters in it. -/
theorem cutOf_cutFrom (piece : List Char) (begin : Position) (cs : List Char)
    (nowhere : NowhereIn Opens piece.reverse cs) :
    CutOf begin (piece.reverse ++ cs)
      (cutFrom piece begin (begin.advance piece.reverse) 0 cs) := by
  -- by the number of characters left, since the search skips what it has found
  induction length : cs.length using Nat.strongRecOn generalizing piece begin cs with
  | ind n ih =>
    subst length
    cases cs with
    | nil =>
      have cut : Segmented (begin.advance piece.reverse) [] begin
          (textSegment piece.reverse begin ++ []) (piece.reverse ++ []) :=
        .behindText nowhere nofun .done
      rw [List.append_nil (textSegment _ _)] at cut
      exact ⟨_, cut⟩
    | cons c cs =>
      cases found : delimitedAt? (c :: cs) with
      | none =>
        have longer : NowhereIn Opens (c :: piece).reverse cs := by
          rw [List.reverse_cons]
          exact nowhereIn_append.2 ⟨nowhere, delimitedAt?_eq_none.1 found, trivial⟩
        have later := ih cs.length (by simp) (c :: piece) begin cs longer rfl
        rw [List.reverse_cons, Position.advance_append, List.append_assoc] at later
        rw [cutFrom, found]
        exact later
      | some d =>
        apply cutFrom_found nowhere found
        intro p more shorter
        exact ih more.length shorter [] p more trivial rfl

theorem cutOf_cut (source : String) : CutOf .start source.toList (cut source) :=
  cutOf_cutFrom [] .start source.toList trivial

/-! ## Section 4: Segments in a source -/

section

variable {stop p : Position} {rest source : List Char} {segs : List Segment}

/-- What is cut stops behind its characters. -/
theorem Segmented.advance_chars (h : Segmented stop rest p segs source) :
    p.advance (segs.flatMap Segment.chars) = stop := by
  induction h with
  | done => rfl
  | text _ _ _ _ ih => simpa [Segment.chars, Position.advance_append] using ih
  | output _ _ ih => simpa [Segment.chars, Position.advance_append] using ih
  | tag _ _ _ _ ih => simpa [Segment.chars, Position.advance_append] using ih
  | raw _ _ _ _ ih =>
    simpa [Segment.chars, flatMap_rawBodySegment, Position.advance_append] using ih
  | comment _ _ _ _ ih => simpa [Segment.chars, Position.advance_append] using ih

/-- Does every segment say rightly where it starts, the first of them at the
    position? -/
def Placed : Position → List Segment → Prop
  | _, [] => True
  | p, s :: segs => (∀ q ∈ s.position?, q = p) ∧ Placed (p.advance s.chars) segs

theorem Segmented.placed (h : Segmented stop rest p segs source) : Placed p segs := by
  induction h with
  | done => trivial
  | text _ _ _ _ ih => exact ⟨by simp [Segment.position?], ih⟩
  | output _ _ ih => exact ⟨by simp [Segment.position?], ih⟩
  | tag _ _ _ _ ih => exact ⟨by simp [Segment.position?], ih⟩
  | @raw m body close _ _ _ _ _ _ ih =>
    rw [Position.advance_append, Position.advance_append] at ih
    refine ⟨by simp [Segment.position?], ?_⟩
    -- an empty body leaves no segment, and the end tag starts where the body would
    unfold rawBodySegment
    split
    next empty =>
      rw [List.isEmpty_iff.1 empty] at ih
      exact ⟨nofun, ih⟩
    next => exact ⟨by simp [Segment.position?, Segment.chars], nofun, ih⟩
  | comment _ _ _ _ ih => exact ⟨nofun, ih⟩

theorem Placed.position_eq {front back : List Segment} {s : Segment} {q : Position}
    (h : Placed p (front ++ s :: back)) (told : s.position? = some q) :
    q = p.advance (front.flatMap Segment.chars) := by
  induction front generalizing p with
  | nil => exact h.1 q told
  | cons t front ih =>
    rw [ih h.2, List.flatMap_cons, Position.advance_append]

/-- What is listed behind an entry stands there, if the entries up to it are
    others. -/
theorem exists_behind {α : Type} {as cs front back : List α} {c s : α}
    (same : as ++ c :: cs = front ++ s :: back) (absent : s ∉ as) (other : s ≠ c) :
    ∃ front', front = as ++ c :: front' ∧ cs = front' ++ s :: back := by
  induction as generalizing front with
  | nil =>
    cases front with
    | nil => exact absurd (List.cons.inj same).1.symm other
    | cons d front =>
      cases same
      exact ⟨front, rfl, rfl⟩
  | cons a as ih =>
    obtain ⟨first, others⟩ := List.ne_and_not_mem_of_not_mem_cons absent
    cases front with
    | nil => exact absurd (List.cons.inj same).1.symm first
    | cons d front =>
      obtain ⟨rfl, tails⟩ := List.cons.inj same
      obtain ⟨front', rfl, rfl⟩ := ih tails others
      exact ⟨front', rfl, rfl⟩

/-- A cut can be stopped in front of its first segment, so only what stands
    behind that matters. -/
theorem Segmented.split_of_behind {front back : List Segment} {s : Segment}
    (h : Segmented stop rest p segs source)
    (behind : ∀ t front, segs = t :: front ++ s :: back →
      ∃ mid more, Segmented mid more p (t :: front) source ∧ Segmented stop rest mid (s :: back) more)
    (whole : segs = front ++ s :: back) :
    ∃ mid more, Segmented mid more p front source ∧ Segmented stop rest mid (s :: back) more := by
  cases front with
  | nil =>
    subst whole
    exact ⟨p, source, .done, h⟩
  | cons t front => exact behind t front whole

/-- A cut can be stopped in front of every segment but those inside a raw
    block. -/
theorem Segmented.exists_split (h : Segmented stop rest p segs source) {front back : List Segment}
    {s : Segment} (whole : segs = front ++ s :: back) (notBody : ∀ cs q, s ≠ .rawBody cs q)
    (notClose : ∀ cs, s ≠ .rawClose cs) :
    ∃ mid more, Segmented mid more p front source ∧ Segmented stop rest mid (s :: back) more := by
  have outside (body : List Char) (q : Position) : s ∉ rawBodySegment body q := by
    intro member
    unfold rawBodySegment at member
    split at member
    · cases member
    · exact notBody _ _ (List.mem_singleton.1 member)
  apply h.split_of_behind _ whole
  clear whole
  induction h with
  | done =>
    intro t front whole
    cases whole
  | text visible nowhere other h ih =>
    intro t front whole
    cases whole
    obtain ⟨mid, more, inFront, behind⟩ := h.split_of_behind ih rfl
    refine ⟨mid, more, .text visible nowhere ?_ inFront, behind⟩
    intro ds r head
    apply other ds r
    show (front ++ s :: back).head? = _
    rw [List.head?_append, head]
    rfl
  | output output h ih =>
    intro t front whole
    cases whole
    obtain ⟨mid, more, inFront, behind⟩ := h.split_of_behind ih rfl
    exact ⟨mid, more, .output output inFront, behind⟩
  | tag tag notRaw notComment h ih =>
    intro t front whole
    cases whole
    obtain ⟨mid, more, inFront, behind⟩ := h.split_of_behind ih rfl
    exact ⟨mid, more, .tag tag notRaw notComment inFront, behind⟩
  -- `s` is neither the body nor the end tag, so it stands behind the whole block
  | raw tag nowhere closes h ih =>
    intro t front whole
    obtain ⟨rfl, same⟩ := List.cons.inj whole
    obtain ⟨front', rfl, later⟩ := exists_behind same (outside _ _) (notClose _)
    obtain ⟨mid, more, inFront, behind⟩ := h.split_of_behind ih later
    exact ⟨mid, more, .raw tag nowhere closes inFront, behind⟩
  | comment tag nowhere closes h ih =>
    intro t front whole
    cases whole
    obtain ⟨mid, more, inFront, behind⟩ := h.split_of_behind ih rfl
    exact ⟨mid, more, .comment tag nowhere closes inFront, behind⟩

end

end Stencil
