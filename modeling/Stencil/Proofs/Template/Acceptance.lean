import Stencil.Proofs.Grammar.Exactness
import Stencil.Proofs.Statement.Parse
import Stencil.Proofs.Template.Compile
import Stencil.Proofs.Template.Nesting

/-! # Which chunks are compiled

    A chunk is refused for its arguments or for its place, and the two are
    told apart by the fault.  Nothing is misplaced among pieces, so exactly
    the well nested chunks whose arguments can be parsed are compiled.  Where
    such chunks break off inside a block, the innermost one is blamed. -/

namespace Stencil

open Piece

/-! ## Section 1: Arguments and places -/

/-- Is the fault blamed on where a tag stands? -/
def Fault.IsMisplaced (f : Fault) : Prop :=
  ∃ cause : Malformed, f = .malformed cause ∧ cause.IsMisplaced

/-- Is nothing blamed for where it stands? -/
abbrev WellPlaced {α : Type} (x : Except Failure α) : Prop :=
  Meets (fun _ => True) (fun f => ¬ f.fault.IsMisplaced) x

theorem Failure.fault_blame (f : Failure) (place : Place) : (f.blame place).fault = f.fault := by
  unfold Failure.blame
  split <;> rfl

/-- Can the arguments of the chunk be parsed in their form? -/
def Chunk.Parses : Chunk → Prop
  | .output m => ∃ e, m.expression = .ok e
  | .tag "for" m | .tag "tablerow" m => ∃ h, m.loopHeader = .ok h
  | .tag "if" m | .tag "unless" m | .tag "elsif" m | .tag "case" m => ∃ e, m.expression = .ok e
  | .tag "when" m => ∃ es, m.alternatives = .ok es
  | .tag "assign" m => ∃ s, m.assignment = .ok s
  | .tag "cycle" m => ∃ c, m.cycle = .ok c
  | .text _ _ | .tag _ _ => True

theorem parse_not_misplaced (source : String) :
    Meets (fun _ => True) (fun f => ¬ f.IsMisplaced) (parse source) := by
  -- neither the scanner nor the parser knows of tags
  have scanned : Meets (fun _ => True) (fun f => ¬ f.IsMisplaced) (scan source) := by
    refine (scan_meets source).mono (fun _ h => h) fun f h => ?_
    rintro ⟨cause, rfl, misplaced⟩
    obtain ⟨c, text, same⟩ | ⟨_, same, -⟩ := h
    · cases same
      exact misplaced
    · cases same
  refine Meets.bind scanned fun tokens _ => ?_
  cases parsed : Grammar.parseTokens tokens with
  | ok statement => exact .ok trivial
  | error fault =>
    refine .error ?_
    rintro ⟨cause, same, misplaced⟩
    cases same
    obtain ⟨found, expected, rfl⟩ | said := Grammar.fault_of_parseTokens parsed
    · exact misplaced
    · cases fault with
      | noArguments | unexpectedTag | undefinedTag => exact said
      | _ => exact misplaced

theorem notExpression_not_misplaced (source : String) :
    ¬ (Fault.malformed (.notExpression source)).IsMisplaced := by
  rintro ⟨cause, same, misplaced⟩
  cases same
  exact misplaced

namespace Mark

variable (m : Mark)

theorem atMark_not_misplaced {α : Type} {x : Except Fault α}
    (h : Meets (fun _ => True) (fun f => ¬ f.IsMisplaced) x) : WellPlaced (atMark m x) :=
  h.mapError fun fault hf => by
    rw [Failure.fault_blame]
    exact hf

theorem expression_not_misplaced : WellPlaced m.expression := by
  refine m.atMark_not_misplaced (Meets.bind (parse_not_misplaced m.args) fun statement _ => ?_)
  split
  · exact .ok trivial
  · exact .error (notExpression_not_misplaced _)

theorem selected_not_misplaced {α : Type} (s : Selector) (pick : Statement → Option α) :
    WellPlaced (m.selected s pick) := by
  refine m.atMark_not_misplaced (Meets.bind (parse_not_misplaced _) fun statement _ => ?_)
  split
  · exact .ok trivial
  · exact .error (notExpression_not_misplaced _)

end Mark

namespace Piece

mutual

/-- Nothing is misplaced among pieces. -/
theorem node_not_misplaced : (t : Piece) → WellPlaced t.node
  | .text _ _ => by
    rw [node]
    exact .ok trivial
  | .output m => by
    rw [node]
    exact Meets.bind m.expression_not_misplaced fun _ _ => .ok trivial
  | .assign m => by
    rw [node]
    exact Meets.bind (m.selected_not_misplaced _ _) fun _ _ => .ok trivial
  | .cycle m => by
    rw [node]
    exact Meets.bind (m.selected_not_misplaced _ _) fun _ _ => .ok trivial
  | .signal _ _ _ => by
    rw [node]
    exact .ok trivial
  | .loop m body otherwise _ => by
    rw [node]
    refine Meets.bind (m.selected_not_misplaced _ _) fun _ _ => ?_
    refine Meets.bind (nodes_not_misplaced body) fun _ _ => ?_
    exact Meets.bind (otherwiseNodes_not_misplaced otherwise) fun _ _ => .ok trivial
  | .table m body _ => by
    rw [node]
    refine Meets.bind (m.selected_not_misplaced _ _) fun _ _ => ?_
    exact Meets.bind (nodes_not_misplaced body) fun _ _ => .ok trivial
  | .branch _ m body clauses otherwise _ => by
    rw [node]
    refine Meets.bind m.expression_not_misplaced fun _ _ => ?_
    refine Meets.bind (nodes_not_misplaced body) fun _ _ => ?_
    refine Meets.bind (conditionNodes_not_misplaced clauses) fun _ _ => ?_
    exact Meets.bind (otherwiseNodes_not_misplaced otherwise) fun _ _ => .ok trivial
  | .choice m lead clauses otherwise _ => by
    rw [node]
    refine Meets.bind m.expression_not_misplaced fun _ _ => ?_
    refine Meets.bind (nodes_not_misplaced lead) fun _ _ => ?_
    refine Meets.bind (alternativeNodes_not_misplaced clauses) fun _ _ => ?_
    exact Meets.bind (otherwiseNodes_not_misplaced otherwise) fun _ _ => .ok trivial

theorem nodes_not_misplaced : (ts : List Piece) → WellPlaced (nodes ts)
  | [] => by
    rw [nodes]
    exact .ok trivial
  | t :: ts => by
    rw [nodes]
    refine Meets.bind (node_not_misplaced t) fun _ _ => ?_
    exact Meets.bind (nodes_not_misplaced ts) fun _ _ => .ok trivial

theorem conditionNodes_not_misplaced : (clauses : List (Mark × List Piece)) →
    WellPlaced (conditionNodes clauses)
  | [] => by
    rw [conditionNodes]
    exact .ok trivial
  | (m, body) :: rest => by
    rw [conditionNodes]
    refine Meets.bind m.expression_not_misplaced fun _ _ => ?_
    refine Meets.bind (nodes_not_misplaced body) fun _ _ => ?_
    exact Meets.bind (conditionNodes_not_misplaced rest) fun _ _ => .ok trivial

theorem alternativeNodes_not_misplaced : (clauses : List (Mark × List Piece)) →
    WellPlaced (alternativeNodes clauses)
  | [] => by
    rw [alternativeNodes]
    exact .ok trivial
  | (m, body) :: rest => by
    rw [alternativeNodes]
    refine Meets.bind (m.selected_not_misplaced _ _) fun _ _ => ?_
    refine Meets.bind (nodes_not_misplaced body) fun _ _ => ?_
    exact Meets.bind (alternativeNodes_not_misplaced rest) fun _ _ => .ok trivial

theorem otherwiseNodes_not_misplaced : (o : Option (Mark × List Piece)) →
    WellPlaced (otherwiseNodes o)
  | none => by
    rw [otherwiseNodes]
    exact .ok trivial
  | some (_, body) => by
    rw [otherwiseNodes]
    exact Meets.bind (nodes_not_misplaced body) fun _ _ => .ok trivial

end

end Piece

/-! ## Section 2: Chunks that are refused -/

namespace Assembly

variable {a b : Assembly} {c : Chunk} {cs : List Chunk}

/-- The arguments of a chunk that is taken in can be parsed. -/
theorem Takes.parses {x : Except Failure Assembly} (h : a.Takes c x) (taken : x = .ok b) :
    c.Parses := by
  cases h with
  | output =>
    obtain ⟨e, parsed, -⟩ := eq_ok_of_bind_pure taken
    exact ⟨e, parsed⟩
  | assign =>
    obtain ⟨s, parsed, -⟩ := eq_ok_of_bind_pure taken
    exact ⟨s, parsed⟩
  | cycle =>
    obtain ⟨c, parsed, -⟩ := eq_ok_of_bind_pure taken
    exact ⟨c, parsed⟩
  -- a signal has no arguments
  | signal stops => cases stops <;> exact trivial
  | loop =>
    obtain ⟨header, parsed, -⟩ := eq_ok_of_bind_pure taken
    exact ⟨header, parsed⟩
  | table =>
    obtain ⟨header, parsed, -⟩ := eq_ok_of_bind_pure taken
    exact ⟨header, parsed⟩
  | branch negated =>
    obtain ⟨e, parsed, -⟩ := eq_ok_of_bind_pure taken
    cases negated <;> exact ⟨e, parsed⟩
  | choice =>
    obtain ⟨e, parsed, -⟩ := eq_ok_of_bind_pure taken
    exact ⟨e, parsed⟩
  | elsif =>
    obtain ⟨e, parsed, -⟩ := eq_ok_of_bind_pure taken
    exact ⟨e, parsed⟩
  | when =>
    obtain ⟨es, parsed, -⟩ := eq_ok_of_bind_pure taken
    exact ⟨es, parsed⟩
  -- the end tag depends on the block, and has no arguments in any
  | @close m o outer =>
    cases o.block with
    | branch negated _ _ | branchElse negated _ => cases negated <;> exact trivial
    | _ => exact trivial
  | text | otherwise => exact trivial
  | refused => cases taken

/-- A chunk whose arguments can be parsed is refused only for its place. -/
theorem Takes.misplaced {x : Except Failure Assembly} (h : a.Takes c x) (parses : c.Parses) :
    Meets (fun _ => True) (fun f => f.fault.IsMisplaced) x := by
  have goes {α : Type} {y : Except Failure α} {f : α → Assembly} (parsed : ∃ v, y = .ok v) :
      Meets (fun _ => True) (fun f => f.fault.IsMisplaced) (y >>= fun v => pure (f v)) := by
    obtain ⟨v, rfl⟩ := parsed
    exact .ok trivial
  cases h with
  | branch negated => cases negated <;> exact goes parses
  | output | assign | cycle | loop | table | choice | elsif | when => exact goes parses
  | text | signal | otherwise | close => exact .ok trivial
  | @refused name m cause misplaced =>
    refine .error ?_
    rw [Failure.fault_blame]
    exact ⟨cause, rfl, misplaced⟩

theorem parses_of_pass (taken : a.pass cs = .ok b) : ∀ c ∈ cs, c.Parses := by
  refine pass_keeps (q := fun cs _ => ∀ c ∈ cs, c.Parses) nofun ?_ taken
  intro before a c b parses first
  have here : ∀ d ∈ [c], d.Parses := by
    rw [List.forall_mem_singleton]
    exact (a.takes c).parses first
  exact List.forall_mem_append.2 ⟨parses, here⟩

theorem pass_misplaced (parses : ∀ c ∈ cs, c.Parses) :
    Meets (fun _ => True) (fun f => f.fault.IsMisplaced) (a.pass cs) := by
  induction cs generalizing a with
  | nil => exact .ok trivial
  | cons c cs ih =>
    obtain ⟨first, rest⟩ := List.forall_mem_cons.1 parses
    rw [pass_cons]
    exact Meets.bind ((a.takes c).misplaced first) fun mid _ => ih rest

end Assembly

/-- In front of the end of pieces, the pass refuses nothing whose arguments
    can be parsed. -/
theorem exists_pass_of_prefix {cs ds : List Chunk} {ts : List Piece}
    (whole : allChunks ts = cs ++ ds) (parses : ∀ c ∈ cs, c.Parses) :
    ∃ a, Assembly.pass ⟨[], []⟩ cs = .ok a := by
  cases ended : Assembly.pass ⟨[], []⟩ cs with
  | ok a => exact ⟨a, rfl⟩
  | error f =>
    -- its fault would be that of the pieces, among which nothing is misplaced
    have built : nodes ts = .error f := by
      rw [← compileChunks_allChunks, whole]
      show (Assembly.pass ⟨[], []⟩ (cs ++ ds) >>= Assembly.finish) = _
      rw [Assembly.pass_append, ended]
      rfl
    have misplaced := (Assembly.pass_misplaced parses).of_error ended
    exact absurd misplaced ((nodes_not_misplaced ts).of_error built)

/-! ## Section 3: Blocks that are open -/

/-- The tags that open blocks. -/
def openingTags : List String :=
  ["for", "tablerow", "if", "unless", "case"]

/-- The tags that end blocks. -/
def endTags : List String :=
  ["endfor", "endtablerow", "endif", "endunless", "endcase"]

/-- The blocks that are open behind a chunk: their tags and places, the
    innermost first. -/
def Chunk.openBlocks (around : List (String × Place)) : Chunk → List (String × Place)
  | .tag name m =>
    if name ∈ openingTags then (name, m.place) :: around
    else if name ∈ endTags then around.tail
    else around
  | _ => around

/-- The blocks that are open behind some chunks. -/
def openBlocks (cs : List Chunk) : List (String × Place) :=
  cs.foldl Chunk.openBlocks []

namespace Assembly

/-- The tags and places of the blocks around the body at hand. -/
def around (a : Assembly) : List (String × Place) :=
  a.opened.map fun o => (o.tag, o.place)

variable {a b : Assembly} {c : Chunk} {cs : List Chunk}

theorem around_turn (a : Assembly) (change : List Node → Block → Option Block) :
    (a.turn change).around = a.around := by
  unfold turn
  split
  next => rfl
  next o outer opened =>
    split
    next =>
      unfold around
      rw [opened]
      rfl
    next => rfl

/-- The tag of a block is no end tag, and its end tag does not open one. -/
theorem openBlocks_endTag (block : Block) (m : Mark) (around : List (String × Place)) :
    (Chunk.tag block.endTag m).openBlocks around = around.tail := by
  cases block with
  | branch negated _ _ | branchElse negated _ => cases negated <;> rfl
  | _ => rfl

theorem Takes.around_eq {x : Except Failure Assembly} (h : a.Takes c x) (taken : x = .ok b) :
    b.around = c.openBlocks a.around := by
  cases h with
  | text =>
    cases taken
    rfl
  | output | assign | cycle =>
    obtain ⟨_, -, rfl⟩ := eq_ok_of_bind_pure taken
    rfl
  | signal stops =>
    cases taken
    cases stops <;> rfl
  | loop | table | choice =>
    obtain ⟨_, -, rfl⟩ := eq_ok_of_bind_pure taken
    rfl
  | branch negated =>
    obtain ⟨_, -, rfl⟩ := eq_ok_of_bind_pure taken
    cases negated <;> rfl
  | elsif | when =>
    obtain ⟨_, -, rfl⟩ := eq_ok_of_bind_pure taken
    exact around_turn _ _
  | otherwise =>
    cases taken
    exact around_turn _ _
  | close opened =>
    cases taken
    rw [openBlocks_endTag, around, around, leave, opened]
    rfl
  | refused => cases taken

theorem around_of_pass (taken : Assembly.pass ⟨[], []⟩ cs = .ok a) :
    a.around = Stencil.openBlocks cs := by
  refine pass_keeps (q := fun cs a => a.around = Stencil.openBlocks cs) rfl ?_ taken
  intro before a c b kept first
  rw [(a.takes c).around_eq first, kept]
  unfold Stencil.openBlocks
  rw [List.foldl_append]
  rfl

end Assembly

/-! ## Section 4: What is compiled, and to what -/

/-- Exactly the well nested chunks whose arguments can be parsed are compiled. -/
theorem exists_compileChunks_iff (cs : List Chunk) :
    (∃ ns, compileChunks cs = .ok ns) ↔ (∃ ts, allChunks ts = cs) ∧ ∀ c ∈ cs, c.Parses := by
  constructor
  · rintro ⟨ns, compiled⟩
    refine ⟨exists_pieces_of_compileChunks compiled, ?_⟩
    obtain ⟨a, ended, -⟩ := eq_ok_of_bind (f := Assembly.finish) compiled
    exact Assembly.parses_of_pass ended
  · rintro ⟨⟨ts, rfl⟩, parses⟩
    obtain ⟨a, ended⟩ := exists_pass_of_prefix (List.append_nil _).symm parses
    rw [← List.append_nil (allChunks ts), pass_allChunks] at ended
    obtain ⟨ns, built, -⟩ := eq_ok_of_bind ended
    exact ⟨ns, (compileChunks_allChunks ts).trans built⟩

/-- Where well nested chunks break off inside a block, the innermost block is
    blamed. -/
theorem compileChunks_of_prefix {cs ds : List Chunk} {ts : List Piece}
    (whole : allChunks ts = cs ++ ds) (parses : ∀ c ∈ cs, c.Parses) {name : String}
    {place : Place} {outer : List (String × Place)}
    (inside : openBlocks cs = (name, place) :: outer) :
    compileChunks cs = .error ⟨.malformed (.unterminated name), some place⟩ := by
  obtain ⟨a, ended⟩ := exists_pass_of_prefix whole parses
  have around : a.around = (name, place) :: outer := (Assembly.around_of_pass ended).trans inside
  show (Assembly.pass ⟨[], []⟩ cs >>= Assembly.finish) = _
  rw [ended, ok_bind, Assembly.finish]
  unfold Assembly.around at around
  cases opened : a.opened with
  | nil =>
    rw [opened] at around
    cases around
  | cons o rest =>
    rw [opened] at around
    cases around
    rfl

/-- The chunks that are compiled are the well nested ones whose arguments can
    be parsed, and every way to nest them gives the nodes that they are
    compiled to.  Of those that break off inside a block, the innermost block
    is reported as not terminated, at the place of its tag. -/
theorem compileChunks_exact (cs : List Chunk) :
    ((∃ ns, compileChunks cs = .ok ns) ↔ (∃ ts, allChunks ts = cs) ∧ ∀ c ∈ cs, c.Parses) ∧
      (∀ ts, allChunks ts = cs → compileChunks cs = nodes ts) ∧
      ∀ ds ts name place outer, allChunks ts = cs ++ ds → (∀ c ∈ cs, c.Parses) →
        openBlocks cs = (name, place) :: outer →
        ∃ f : Failure, compileChunks cs = .error f ∧ f.place = some place ∧
          f.fault.message = Text.quote name ++ " tag not terminated" := by
  refine ⟨exists_compileChunks_iff cs, ?_, ?_⟩
  · rintro ts rfl
    exact compileChunks_allChunks ts
  · intro ds ts name place outer whole parses inside
    exact ⟨_, compileChunks_of_prefix whole parses inside, rfl, rfl⟩

/-- A condition with an alternative inside a choice. -/
def nested : List Piece :=
  let m (line : Nat) (args : String) : Mark := ⟨args, ⟨line, 1⟩, args, false, false⟩
  [.choice (m 1 "a") [.branch true (m 2 "a") [.text "x" ⟨3, 1⟩] [] (some (m 4 "", [])) (m 5 "")] []
    none (m 6 "")]

/-- Broken off behind the `else`, the condition is reported and not the
    choice. -/
theorem nested_broken_off :
    allChunks nested = (allChunks nested).take 4 ++ (allChunks nested).drop 4 ∧
      (∀ c ∈ (allChunks nested).take 4, c.Parses) ∧
      ∃ f : Failure, compileChunks ((allChunks nested).take 4) = .error f ∧
        f.place = some ⟨.int 2, .int 1, "a"⟩ ∧ f.fault.message = "'unless' tag not terminated" := by
  have whole := (List.take_append_drop 4 (allChunks nested)).symm
  have name : IsName "a".toList := isName_ofList rfl rfl
  have written : (Expr.var "a").IsWritten "a" :=
    .lexeme (.word name (.inr (startsWithout_nil _)) (startsWithout_nil _) rfl) .nil
  have parsed (m : Mark) (h : m.args = "a") : m.expression = .ok (.var "a") := by
    rw [Mark.expression, h, Expr.parseExpression_written written]
    rfl
  have parses : ∀ c ∈ (allChunks nested).take 4, c.Parses := by
    have front : (allChunks nested).take 4 = [.tag "case" ⟨"a", ⟨1, 1⟩, "a", false, false⟩,
        .tag "unless" ⟨"a", ⟨2, 1⟩, "a", false, false⟩, .text "x" ⟨3, 1⟩,
        .tag "else" ⟨"", ⟨4, 1⟩, "", false, false⟩] := by
      simp [nested, allChunks, Piece.chunks, otherwiseChunks, clauseChunks, branchTag]
    rw [front]
    simp only [List.forall_mem_cons]
    exact ⟨⟨_, parsed _ rfl⟩, ⟨_, parsed _ rfl⟩, trivial, trivial, nofun⟩
  refine ⟨whole, parses, ?_⟩
  exact (compileChunks_exact _).2.2 _ nested "unless" _ _ whole parses rfl

end Stencil
