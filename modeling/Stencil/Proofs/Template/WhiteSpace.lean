import Stencil.Proofs.Template.Unplaced

/-! # White space that contributes nothing

    What a template outputs does not depend on the white space directly
    outside a dashed delimiter of an output or a tag.  It is gone from the
    chunks, and with any other white space in its place the output is the
    same.  So it is without it, too, as long as a text is left there and no
    braces come together.  The dashes of raw tags and comments trim
    nothing. -/

namespace Stencil

open Text

/-- Is this the output of the template in the scope? -/
def Template.Outputs (engine : Engine) (scope : Scope) (source text : String) : Prop :=
  ∃ t, compile source = .ok t ∧ (t.renderIn engine scope).result = .ok text

namespace Template

variable {engine : Engine} {scope : Scope} {source : String} {chunks : List Chunk}

/-- The output depends on the chunks alone, and not on where they stand. -/
theorem outputs_iff (scanned : Chunk.scan source = .ok chunks) (text : String) :
    Outputs engine scope source text ↔
      ((compileChunks (chunks.map Chunk.unplaced)).toOption.bind fun ns =>
        ((⟨ns, ""⟩ : Template).renderIn engine scope).result.toOption) = some text := by
  -- the source itself is kept with the nodes, but nothing is rendered from it
  have compiled : (compile source).toOption =
      (compileChunks chunks).toOption.map fun ns => ⟨ns, source⟩ := by
    have passed : compile source = compileChunks chunks >>= fun ns => .ok ⟨ns, source⟩ := by
      rw [compile, scanned]
      rfl
    rw [passed]
    cases compileChunks chunks <;> rfl
  have result (ns : List Node) : ((⟨ns, source⟩ : Template).renderIn engine scope).result.toOption =
      ((⟨Node.unplacedAll ns, ""⟩ : Template).renderIn engine scope).result.toOption :=
    result_unplaced ⟨ns, source⟩ engine scope ""
  have whole : ((compile source).toOption.bind fun t => (t.renderIn engine scope).result.toOption) =
      (compileChunks (chunks.map Chunk.unplaced)).toOption.bind fun ns =>
        ((⟨ns, ""⟩ : Template).renderIn engine scope).result.toOption := by
    rw [compiled, compileChunks_unplaced, Option.bind_map, Option.bind_map]
    exact congrArg (Option.bind _) (funext result)
  rw [← whole, Option.bind_eq_some_iff]
  simp only [toOption_eq_some]
  rfl

/-- White space directly outside a dashed delimiter of an output or a tag
    contributes nothing.  The chunks are those of the segments without it,
    and with any other white space in its place the source has the same
    outputs; so it has without any, where text is left next to it. -/
theorem outputs_respaced (scanned : Chunk.scan source = .ok chunks) {c : Chunk}
    (member : c ∈ chunks) {m : Mark} (marked : c.mark? = some m) {before run behind : List Char}
    (written : source.toList = before ++ (run ++ behind)) (trims : m.Trims before run behind)
    (visible : run ≠ []) (blank : ∀ c ∈ run, isBlank c = true) :
    (∃ front cs ds q back, cut source = .ok (front ++ .text (cs ++ (run ++ ds)) q :: back) ∧
      before = front.flatMap Segment.chars ++ cs ∧ behind = ds ++ back.flatMap Segment.chars ∧
      chunks = Chunk.trimAll false
        ((front ++ .text (cs ++ ds) q :: back).filterMap Chunk.ofSegment?)) ∧
    ∀ run' : List Char, (∀ c ∈ run', isBlank c = true) → (run' = [] → TextBeside before behind) →
      ∀ (engine : Engine) (scope : Scope) (text : String),
        Outputs engine scope source text ↔
          Outputs engine scope (String.ofList (before ++ (run' ++ behind))) text := by
  constructor
  · obtain ⟨segs, found, rfl⟩ := Chunk.exists_cut_of_scan scanned
    obtain ⟨stop, whole⟩ := cut_eq_ok.1 found
    obtain ⟨s, standing, kept, leaves, marked⟩ := Chunk.exists_segment_of_marked member marked
    obtain ⟨front, cs, ds, q, back, h⟩ :=
      Chunk.exists_spaced whole standing leaves marked written trims visible blank
    obtain ⟨rfl, inFront, behindIt, dashed⟩ := h
    exact ⟨front, cs, ds, q, back, found, inFront, behindIt,
      Chunk.trimAll_respaced q blank dashed⟩
  · intro run' blank' beside engine scope text
    obtain ⟨chunks', rescanned, same⟩ :=
      Chunk.scan_respaced scanned member marked written trims visible blank blank' beside
    rw [outputs_iff scanned, outputs_iff rescanned, same]

/-- An output that trims the white space on both sides. -/
def quotedSource : String :=
  "a \n\x7b\x7b- 'b' -\x7d\x7d  c"

/-- The mark of that output. -/
def quotedMark : Mark :=
  ⟨"\x7b\x7b- 'b' -\x7d\x7d", ⟨2, 1⟩, "'b'", true, true⟩

/-- It can be written without the one run, and with a tab in place of the
    other one. -/
theorem quoted_respaced :
    Chunk.scan quotedSource =
        .ok [.text "a" ⟨1, 1⟩, .output quotedMark, .text "c" ⟨2, 12⟩] ∧
      ∀ (engine : Engine) (scope : Scope) (text : String),
        (Outputs engine scope quotedSource text ↔
          Outputs engine scope "a\x7b\x7b- 'b' -\x7d\x7d  c" text) ∧
        (Outputs engine scope quotedSource text ↔
          Outputs engine scope "a \n\x7b\x7b- 'b' -\x7d\x7d\tc" text) := by
  have scanned : Chunk.scan quotedSource =
      .ok [.text "a" ⟨1, 1⟩, .output quotedMark, .text "c" ⟨2, 12⟩] := by rfl
  have marked : (Chunk.output quotedMark).mark? = some quotedMark := rfl
  have left : quotedMark.Trims ['a'] [' ', '\n'] (quotedMark.chars ++ [' ', ' ', 'c']) :=
    .left rfl (by rfl)
  have right : quotedMark.Trims (['a', ' ', '\n'] ++ quotedMark.chars) [' ', ' '] ['c'] :=
    .right rfl (by rfl)
  have inFront : quotedSource.toList =
      ['a'] ++ ([' ', '\n'] ++ (quotedMark.chars ++ [' ', ' ', 'c'])) := by decide +kernel
  have behind : quotedSource.toList =
      ['a', ' ', '\n'] ++ quotedMark.chars ++ ([' ', ' '] ++ ['c']) := by decide +kernel
  have without : String.ofList (['a'] ++ ([] ++ (quotedMark.chars ++ [' ', ' ', 'c']))) =
      "a\x7b\x7b- 'b' -\x7d\x7d  c" := by decide +kernel
  have tabbed : String.ofList (['a', ' ', '\n'] ++ quotedMark.chars ++ (['\t'] ++ ['c'])) =
      "a \n\x7b\x7b- 'b' -\x7d\x7d\tc" := by decide +kernel
  refine ⟨scanned, fun engine scope text => ⟨?_, ?_⟩⟩
  · rw [← without]
    exact (outputs_respaced scanned (by simp) marked inFront left (by simp)
      (List.all_eq_true.1 (by decide))).2 [] (by simp)
      (fun _ => .inl ⟨'a', rfl, by decide, by decide⟩) engine scope text
  · rw [← tabbed]
    exact (outputs_respaced scanned (by simp) marked behind right (by simp)
      (List.all_eq_true.1 (by decide))).2 ['\t'] (List.all_eq_true.1 (by decide)) (by simp)
      engine scope text

/-- A raw block with a dash in front. -/
def rawSource : String :=
  "a \x7b%- raw %\x7db\x7b% endraw %\x7d"

/-- The mark of its tag. -/
def rawMark : Mark :=
  ⟨"\x7b%- raw %\x7d", ⟨1, 3⟩, "", true, false⟩

/-- The dash of a raw tag trims nothing: what is written without the white
    space in front of it has another output. -/
theorem raw_untrimmed :
    cut rawSource = .ok [.text ['a', ' '] ⟨1, 1⟩, .rawOpen rawMark, .rawBody ['b'] ⟨1, 13⟩,
        .rawClose "\x7b% endraw %\x7d".toList] ∧
      rawMark.Trims ['a'] [' '] (rawMark.chars ++ "b\x7b% endraw %\x7d".toList) ∧
      Outputs (.standard .standard) (.ofBindings []) rawSource "a b" ∧
      ¬ Outputs (.standard .standard) (.ofBindings [])
        "a\x7b%- raw %\x7db\x7b% endraw %\x7d" "a b" := by
  refine ⟨by rfl, .left rfl (by rfl), ⟨⟨[.text "a ", .text "b"], rawSource⟩, by rfl, by rfl⟩, ?_⟩
  rintro ⟨t, compiled, result⟩
  have texts : compile "a\x7b%- raw %\x7db\x7b% endraw %\x7d" =
      .ok ⟨[.text "a", .text "b"], "a\x7b%- raw %\x7db\x7b% endraw %\x7d"⟩ := by rfl
  rw [texts] at compiled
  cases compiled
  have joined : "ab" = "a b" := Except.ok.inj result
  exact absurd joined (by decide)

end Template

end Stencil
