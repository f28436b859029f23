import Stencil.Proofs.Computation
import Stencil.Template.Compile

/-! # The grammar of blocks

    What it means for chunks to be well nested: they are the leaves, in
    order, of some pieces.  A piece is a text, an output, a tag that stands
    alone, or a whole block with its bodies between its tags.  The pass over
    the chunks of some pieces builds the node of each, and blames the first
    arguments in the order of the source that cannot be parsed. -/

namespace Stencil

/-! ## Section 1: Pieces -/

/-- A piece of a template.  Blocks have the mark of their opening tag, a
    body, and the mark of their end tag; clauses have a mark of their own in
    front of their bodies. -/
inductive Piece where
  | text (s : String) (position : Text.Position)
  | output (m : Mark)
  | assign (m : Mark)
  | cycle (m : Mark)
  | signal (stops : Bool) (m : Mark) (bare : m.args = "")
  | loop (m : Mark) (body : List Piece) (otherwise : Option (Mark × List Piece)) (last : Mark)
  | table (m : Mark) (body : List Piece) (last : Mark)
  /-- An `if`, or the negation of one, with any number of `elsif` clauses. -/
  | branch (negated : Bool) (m : Mark) (body : List Piece) (clauses : List (Mark × List Piece))
      (otherwise : Option (Mark × List Piece)) (last : Mark)
  /-- A `case`, with any number of `when` clauses behind what leads up to
      the first of them. -/
  | choice (m : Mark) (lead : List Piece) (clauses : List (Mark × List Piece))
      (otherwise : Option (Mark × List Piece)) (last : Mark)

/-- The tag that opens a block with conditions. -/
def branchTag (negated : Bool) : String :=
  if negated then "unless" else "if"

/-- The tag that ends a block with conditions. -/
def branchEnd (negated : Bool) : String :=
  if negated then "endunless" else "endif"

namespace Piece

/-- The tag of a signal. -/
def signalTag (stops : Bool) : String :=
  if stops then "break" else "continue"

mutual

/-- The chunks of a piece. -/
def chunks : Piece → List Chunk
  | .text s position => [.text s position]
  | .output m => [.output m]
  | .assign m => [.tag "assign" m]
  | .cycle m => [.tag "cycle" m]
  | .signal stops m _ => [.tag (signalTag stops) m]
  | .loop m body otherwise last =>
    .tag "for" m :: (allChunks body ++ (otherwiseChunks otherwise ++ [.tag "endfor" last]))
  | .table m body last => .tag "tablerow" m :: (allChunks body ++ [.tag "endtablerow" last])
  | .branch negated m body clauses otherwise last =>
    .tag (branchTag negated) m :: (allChunks body ++ (clauseChunks "elsif" clauses ++
      (otherwiseChunks otherwise ++ [.tag (branchEnd negated) last])))
  | .choice m lead clauses otherwise last =>
    .tag "case" m :: (allChunks lead ++ (clauseChunks "when" clauses ++
      (otherwiseChunks otherwise ++ [.tag "endcase" last])))

/-- The chunks of pieces, one behind the other. -/
def allChunks : List Piece → List Chunk
  | [] => []
  | t :: ts => chunks t ++ allChunks ts

/-- The chunks of clauses, each with its tag in front. -/
def clauseChunks (tag : String) : List (Mark × List Piece) → List Chunk
  | [] => []
  | (m, body) :: rest => .tag tag m :: (allChunks body ++ clauseChunks tag rest)

/-- The chunks of an `else` with its body, if there is one. -/
def otherwiseChunks : Option (Mark × List Piece) → List Chunk
  | none => []
  | some (m, body) => .tag "else" m :: allChunks body

end

mutual

/-- The node of a piece, if all arguments can be parsed.  What leads up to
    the first clause of a choice is parsed, and left out. -/
def node : Piece → Except Failure Node
  | .text s _ => .ok (.text s)
  | .output m => do return .output (← m.expression) m.place
  | .assign m => do
    let (target, e) ← m.assignment
    return .assign target e m.place
  | .cycle m => do return .cycle (← m.cycle) m.place
  | .signal stops m _ => .ok (.signal (if stops then .stop else .next) m.place)
  | .loop m body otherwise _ => do
    let h ← m.loopHeader
    let ns ← nodes body
    let alternative ← otherwiseNodes otherwise
    return .loop h ns alternative m.place
  | .table m body _ => do
    let h ← m.loopHeader
    let ns ← nodes body
    return .table h ns m.place
  | .branch negated m body clauses otherwise _ => do
    let condition ← m.expression
    let ns ← nodes body
    let branches ← conditionNodes clauses
    let alternative ← otherwiseNodes otherwise
    return .branch negated ((condition, ns) :: branches) alternative m.place
  | .choice m lead clauses otherwise _ => do
    let subject ← m.expression
    let _ ← nodes lead
    let bodies ← alternativeNodes clauses
    let alternative ← otherwiseNodes otherwise
    return .choice subject bodies alternative m.place

/-- The nodes of pieces. -/
def nodes : List Piece → Except Failure (List Node)
  | [] => .ok []
  | t :: ts => do
    let n ← node t
    let ns ← nodes ts
    return n :: ns

/-- The bodies of clauses with their conditions. -/
def conditionNodes : List (Mark × List Piece) → Except Failure (List (Expr × List Node))
  | [] => .ok []
  | (m, body) :: rest => do
    let condition ← m.expression
    let ns ← nodes body
    let branches ← conditionNodes rest
    return (condition, ns) :: branches

/-- The bodies of clauses with their alternatives. -/
def alternativeNodes : List (Mark × List Piece) → Except Failure (List (List Expr × List Node))
  | [] => .ok []
  | (m, body) :: rest => do
    let alternatives ← m.alternatives
    let ns ← nodes body
    let bodies ← alternativeNodes rest
    return (alternatives, ns) :: bodies

/-- The body of an `else`, if there is one. -/
def otherwiseNodes : Option (Mark × List Piece) → Except Failure (Option (List Node))
  | none => .ok none
  | some (_, body) => do return some (← nodes body)

end

end Piece

/-! ## Section 2: What tags do in their place -/

theorem Block.endTag_mem (b : Block) : b.endTag ∈ innerTags := by
  cases b with
  | branch negated _ _ | branchElse negated _ => cases negated <;> simp [endTag, innerTags]
  | _ => simp [endTag, innerTags]

/-- What belongs to a block never stands anywhere else. -/
theorem Block.mem_of_role? {b : Block} {name : String} {role : Role}
    (h : b.role? name = some role) : name ∈ innerTags := by
  unfold Block.role? at h
  split at h
  next same => exact same ▸ b.endTag_mem
  next =>
    split at h <;> cases h <;> decide

namespace Assembly

theorem role_standing {a : Assembly} {name args : String} (h : name ∉ innerTags) :
    a.role name args = .standing name args := by
  unfold role
  split
  next role found =>
    obtain ⟨o, -, belongs⟩ := Option.bind_eq_some_iff.1 found
    exact absurd (Block.mem_of_role? belongs) h
  next => rfl

/-- The rest of the pass over some chunks. -/
def pass (a : Assembly) (cs : List Chunk) : Except Failure Assembly :=
  cs.foldlM Assembly.chunk a

theorem pass_cons (a : Assembly) (c : Chunk) (cs : List Chunk) :
    a.pass (c :: cs) = a.chunk c >>= fun b => b.pass cs :=
  List.foldlM_cons

theorem pass_append (a : Assembly) (cs ds : List Chunk) :
    a.pass (cs ++ ds) = a.pass cs >>= fun b => b.pass ds :=
  List.foldlM_append

section

variable (a : Assembly) (m : Mark)

theorem chunk_assign :
    a.chunk (.tag "assign" m) =
      m.assignment >>= fun s => pure (a.push (.assign s.1 s.2 m.place)) := by
  show Assembly.tag _ _ _ = _
  rw [Assembly.tag, role_standing (by decide)]
  rfl

theorem chunk_cycle :
    a.chunk (.tag "cycle" m) = m.cycle >>= fun c => pure (a.push (.cycle c m.place)) := by
  show Assembly.tag _ _ _ = _
  rw [Assembly.tag, role_standing (by decide)]
  rfl

theorem chunk_signal (stops : Bool) (bare : m.args = "") :
    a.chunk (.tag (Piece.signalTag stops) m) =
      .ok (a.push (.signal (if stops then .stop else .next) m.place)) := by
  show Assembly.tag _ _ _ = _
  rw [Assembly.tag, role_standing (by cases stops <;> decide), bare]
  cases stops <;> rfl

theorem chunk_for :
    a.chunk (.tag "for" m) =
      m.loopHeader >>= fun h => pure (a.enter "for" m.place (.loop h)) := by
  show Assembly.tag _ _ _ = _
  rw [Assembly.tag, role_standing (by decide)]
  rfl

theorem chunk_tablerow :
    a.chunk (.tag "tablerow" m) =
      m.loopHeader >>= fun h => pure (a.enter "tablerow" m.place (.table h)) := by
  show Assembly.tag _ _ _ = _
  rw [Assembly.tag, role_standing (by decide)]
  rfl

theorem chunk_branch (negated : Bool) :
    a.chunk (.tag (branchTag negated) m) = m.expression >>= fun condition =>
      pure (a.enter (branchTag negated) m.place (.branch negated [] condition)) := by
  show Assembly.tag _ _ _ = _
  rw [Assembly.tag, role_standing (by cases negated <;> decide)]
  cases negated <;> rfl

theorem chunk_case :
    a.chunk (.tag "case" m) =
      m.expression >>= fun subject => pure (a.enter "case" m.place (.choice subject)) := by
  show Assembly.tag _ _ _ = _
  rw [Assembly.tag, role_standing (by decide)]
  rfl

end

section

variable {nodes before : List Node} {b : Block} {tag name : String} {place : Place}
  {outer : List Opened} {m : Mark}

theorem role_inside {args : String} {role : Role} (h : b.role? name = some role) :
    Assembly.role ⟨nodes, ⟨b, tag, place, before⟩ :: outer⟩ name args = role := by
  unfold Assembly.role
  simp only [List.head?_cons, Option.bind_some, h]

theorem chunk_close (h : name = b.endTag) :
    Assembly.chunk ⟨nodes, ⟨b, tag, place, before⟩ :: outer⟩ (.tag name m) =
      .ok ⟨b.close place nodes.reverse :: before, outer⟩ := by
  have closes : b.role? name = some .close := if_pos h
  show Assembly.tag _ name m = _
  rw [Assembly.tag, role_inside closes]
  rfl

theorem chunk_otherwise {next : Block} (h : b.otherwise? nodes.reverse = some next) :
    Assembly.chunk ⟨nodes, ⟨b, tag, place, before⟩ :: outer⟩ (.tag "else" m) =
      .ok ⟨[], ⟨next, tag, place, before⟩ :: outer⟩ := by
  have turns : b.role? "else" = some .otherwise := by
    cases b with
    | branch negated _ _ => cases negated <;> rfl
    | loop _ | choice _ | clause _ _ _ => rfl
    | _ => cases h
  show Assembly.tag _ "else" m = _
  rw [Assembly.tag, role_inside turns]
  show Except.ok (turn _ _) = _
  unfold turn body
  simp only [h]

theorem chunk_elsif {negated : Bool} {done : List (Expr × List Node)} {condition : Expr} :
    Assembly.chunk ⟨nodes, ⟨.branch negated done condition, tag, place, before⟩ :: outer⟩
        (.tag "elsif" m) =
      m.expression >>= fun next => .ok ⟨[],
        ⟨.branch negated (done ++ [(condition, nodes.reverse)]) next, tag, place, before⟩ ::
          outer⟩ := by
  have turns : (Block.branch negated done condition).role? "elsif" = some .elsif := by
    cases negated <;> rfl
  show Assembly.tag _ "elsif" m = _
  rw [Assembly.tag, role_inside turns]
  rfl

theorem chunk_when {next : List Expr → Block}
    (turns : b.role? "when" = some .when)
    (h : ∀ alternatives, b.when? nodes.reverse alternatives = some (next alternatives)) :
    Assembly.chunk ⟨nodes, ⟨b, tag, place, before⟩ :: outer⟩ (.tag "when" m) =
      m.alternatives >>= fun alternatives =>
        .ok ⟨[], ⟨next alternatives, tag, place, before⟩ :: outer⟩ := by
  show Assembly.tag _ "when" m = _
  rw [Assembly.tag, role_inside turns]
  refine bind_congr fun alternatives => ?_
  show Except.ok (turn _ _) = _
  unfold turn body
  simp only [h]

end

end Assembly

/-- The node of a block that ends with the given body, or with an `else`
    behind it. -/
def Block.conclude (b : Block) (place : Place) (body : List Node) : Option (List Node) → Node
  | none => b.close place body
  | some ns => ((b.otherwise? body).getD b).close place ns

theorem Block.endTag_otherwise {b next : Block} {body : List Node}
    (h : b.otherwise? body = some next) : next.endTag = b.endTag := by
  cases b <;> cases h <;> rfl

/-- Is this a choice under way, with these clauses when its body is `body`?
    The body in front of the first clause belongs to none. -/
inductive Block.Collects (subject : Expr) (body : List Node) :
    Block → List (List Expr × List Node) → Prop
  | lead : Collects subject body (.choice subject) []
  | clause {done : List (List Expr × List Node)} {alternatives : List Expr} :
      Collects subject body (.clause subject done alternatives) (done ++ [(alternatives, body)])

namespace Block.Collects

variable {subject : Expr} {body : List Node} {b : Block} {done : List (List Expr × List Node)}

theorem role?_when (h : Collects subject body b done) : b.role? "when" = some .when := by
  cases h <;> rfl

theorem when?_eq (h : Collects subject body b done) (next : List Expr) :
    b.when? body next = some (.clause subject done next) := by
  cases h <;> rfl

theorem otherwise?_eq (h : Collects subject body b done) :
    b.otherwise? body = some (.choiceElse subject done) := by
  cases h <;> rfl

theorem endTag_eq (h : Collects subject body b done) : b.endTag = "endcase" := by
  cases h <;> rfl

theorem conclude_eq (h : Collects subject body b done) (place : Place)
    (alternative : Option (List Node)) :
    b.conclude place body alternative = .choice subject done alternative place := by
  cases h <;> cases alternative <;> rfl

end Block.Collects

/-! ## Section 3: The pass over pieces -/

namespace Piece

/-- Does the pass take what stands behind the last body of a block, up to its
    end, for what it is? -/
def OtherwisePasses (o : Option (Mark × List Piece)) : Prop :=
  ∀ (b next : Block) (body before : List Node) (tag : String) (place : Place)
    (outer : List Opened) (last : Mark) (cs : List Chunk), b.otherwise? body = some next →
    Assembly.pass ⟨body.reverse, ⟨b, tag, place, before⟩ :: outer⟩
        (otherwiseChunks o ++ .tag b.endTag last :: cs) =
      otherwiseNodes o >>= fun alternative =>
        Assembly.pass ⟨b.conclude place body alternative :: before, outer⟩ cs

mutual

/-- The pass builds the node of a piece. -/
theorem pass_chunks : (t : Piece) → (a : Assembly) → (cs : List Chunk) →
    a.pass (t.chunks ++ cs) = t.node >>= fun n => (a.push n).pass cs
  | .text s position, a, cs => by
    rw [chunks, node]
    rfl
  | .output m, a, cs => by
    rw [chunks, node, List.singleton_append, Assembly.pass_cons]
    simp only [Assembly.chunk, bind_assoc, pure_bind]
  | .assign m, a, cs => by
    rw [chunks, node, List.singleton_append, Assembly.pass_cons, Assembly.chunk_assign]
    simp only [bind_assoc, pure_bind]
  | .cycle m, a, cs => by
    rw [chunks, node, List.singleton_append, Assembly.pass_cons, Assembly.chunk_cycle]
    simp only [bind_assoc, pure_bind]
  | .signal stops m bare, a, cs => by
    rw [chunks, node, List.singleton_append, Assembly.pass_cons,
      Assembly.chunk_signal a m stops bare]
    rfl
  | .loop m body otherwise last, a, cs => by
    rw [chunks, node, List.cons_append, Assembly.pass_cons, Assembly.chunk_for]
    simp only [bind_assoc, pure_bind, List.append_assoc, List.singleton_append]
    refine bind_congr fun h => ?_
    -- the body starts empty, with the nodes in front of the loop put aside
    rw [pass_allChunks body]
    refine bind_congr fun ns => ?_
    show Assembly.pass ⟨ns.reverse ++ [], ⟨.loop h, "for", m.place, a.nodes⟩ :: a.opened⟩ _ = _
    rw [List.append_nil]
    refine (pass_otherwise otherwise _ _ _ _ _ _ _ last cs rfl).trans ?_
    refine bind_congr fun alternative => ?_
    cases alternative <;> rfl
  | .table m body last, a, cs => by
    rw [chunks, node, List.cons_append, Assembly.pass_cons, Assembly.chunk_tablerow]
    simp only [bind_assoc, pure_bind, List.append_assoc, List.singleton_append]
    refine bind_congr fun h => ?_
    rw [pass_allChunks body]
    refine bind_congr fun ns => ?_
    show Assembly.pass ⟨ns.reverse ++ [], ⟨.table h, _, m.place, a.nodes⟩ :: a.opened⟩ _ = _
    have closes : "endtablerow" = (Block.table h).endTag := rfl
    rw [List.append_nil, Assembly.pass_cons, Assembly.chunk_close closes, List.reverse_reverse]
    rfl
  | .branch negated m body clauses otherwise last, a, cs => by
    rw [chunks, node, List.cons_append, Assembly.pass_cons, Assembly.chunk_branch]
    simp only [bind_assoc, pure_bind, List.append_assoc, List.singleton_append]
    refine bind_congr fun condition => ?_
    rw [pass_allChunks body]
    refine bind_congr fun ns => ?_
    show Assembly.pass ⟨ns.reverse ++ [],
      ⟨.branch negated [] condition, _, m.place, a.nodes⟩ :: a.opened⟩ _ = _
    rw [List.append_nil]
    exact pass_conditions clauses (pass_otherwise otherwise) _ _ _ _ _ _ _ _ last cs
  | .choice m lead clauses otherwise last, a, cs => by
    rw [chunks, node, List.cons_append, Assembly.pass_cons, Assembly.chunk_case]
    simp only [bind_assoc, pure_bind, List.append_assoc, List.singleton_append]
    refine bind_congr fun subject => ?_
    rw [pass_allChunks lead]
    refine bind_congr fun ns => ?_
    show Assembly.pass ⟨ns.reverse ++ [], ⟨.choice subject, _, m.place, a.nodes⟩ :: a.opened⟩ _ = _
    rw [List.append_nil]
    exact pass_alternatives clauses (pass_otherwise otherwise) .lead _ _ _ _ last cs

theorem pass_allChunks : (ts : List Piece) → (a : Assembly) → (cs : List Chunk) →
    a.pass (allChunks ts ++ cs) =
      nodes ts >>= fun ns => Assembly.pass ⟨ns.reverse ++ a.nodes, a.opened⟩ cs
  | [], a, cs => by
    rw [allChunks, nodes]
    rfl
  | t :: ts, a, cs => by
    rw [allChunks, nodes, List.append_assoc, pass_chunks t a]
    simp only [bind_assoc, pure_bind]
    refine bind_congr fun n => ?_
    rw [pass_allChunks ts]
    refine bind_congr fun ns => ?_
    rw [List.reverse_cons, List.append_assoc]
    rfl

/-- Behind the first body of a block with conditions, `done` are the branches
    before it. -/
theorem pass_conditions : (clauses : List (Mark × List Piece)) →
    {o : Option (Mark × List Piece)} → OtherwisePasses o → (negated : Bool) →
    (done : List (Expr × List Node)) → (condition : Expr) → (body before : List Node) →
    (tag : String) → (place : Place) → (outer : List Opened) → (last : Mark) →
    (cs : List Chunk) →
    Assembly.pass ⟨body.reverse, ⟨.branch negated done condition, tag, place, before⟩ :: outer⟩
        (clauseChunks "elsif" clauses ++
          (otherwiseChunks o ++ .tag (branchEnd negated) last :: cs)) =
      conditionNodes clauses >>= fun branches => otherwiseNodes o >>= fun alternative =>
        Assembly.pass ⟨.branch negated (done ++ (condition, body) :: branches) alternative place ::
          before, outer⟩ cs
  | [], o, ho, negated, done, condition, body, before, tag, place, outer, last, cs => by
    rw [clauseChunks, conditionNodes, List.nil_append, ok_bind]
    refine (ho (.branch negated done condition) _ _ _ _ _ _ last cs rfl).trans ?_
    refine bind_congr fun alternative => ?_
    cases alternative <;> rfl
  | (m, ts) :: rest, o, ho, negated, done, condition, body, before, tag, place, outer, last,
      cs => by
    rw [clauseChunks, conditionNodes, List.cons_append, Assembly.pass_cons, Assembly.chunk_elsif]
    simp only [bind_assoc, pure_bind, ok_bind, List.append_assoc]
    refine bind_congr fun next => ?_
    rw [pass_allChunks ts]
    refine bind_congr fun ns => ?_
    rw [List.append_nil]
    refine (pass_conditions rest ho _ _ _ ns _ _ _ _ last cs).trans ?_
    simp

theorem pass_alternatives : (clauses : List (Mark × List Piece)) →
    {o : Option (Mark × List Piece)} → OtherwisePasses o → {b : Block} → {subject : Expr} →
    {body : List Node} → {done : List (List Expr × List Node)} →
    Block.Collects subject body b done → (before : List Node) → (tag : String) →
    (place : Place) → (outer : List Opened) → (last : Mark) → (cs : List Chunk) →
    Assembly.pass ⟨body.reverse, ⟨b, tag, place, before⟩ :: outer⟩
        (clauseChunks "when" clauses ++ (otherwiseChunks o ++ .tag "endcase" last :: cs)) =
      alternativeNodes clauses >>= fun bodies => otherwiseNodes o >>= fun alternative =>
        Assembly.pass ⟨.choice subject (done ++ bodies) alternative place :: before, outer⟩ cs
  | [], o, ho, b, subject, body, done, collects, before, tag, place, outer, last, cs => by
    rw [clauseChunks, alternativeNodes, List.nil_append, ok_bind, ← collects.endTag_eq]
    refine (ho b _ _ _ _ _ _ last cs collects.otherwise?_eq).trans ?_
    refine bind_congr fun alternative => ?_
    rw [collects.conclude_eq, List.append_nil]
  | (m, ts) :: rest, o, ho, b, subject, body, done, collects, before, tag, place, outer, last,
      cs => by
    -- what leads up to the first clause is dropped, later bodies are kept
    have turns (next : List Expr) : b.when? body.reverse.reverse next =
        some (.clause subject done next) := by
      rw [List.reverse_reverse, collects.when?_eq]
    rw [clauseChunks, alternativeNodes, List.cons_append, Assembly.pass_cons,
      Assembly.chunk_when collects.role?_when turns]
    simp only [bind_assoc, pure_bind, ok_bind, List.append_assoc]
    refine bind_congr fun next => ?_
    rw [pass_allChunks ts]
    refine bind_congr fun ns => ?_
    rw [List.append_nil]
    refine (pass_alternatives rest ho .clause _ _ _ _ last cs).trans ?_
    simp

theorem pass_otherwise : (o : Option (Mark × List Piece)) → OtherwisePasses o
  | none => by
    intro b next body before tag place outer last cs h
    rw [otherwiseChunks, otherwiseNodes, List.nil_append, Assembly.pass_cons,
      Assembly.chunk_close rfl, List.reverse_reverse]
    rfl
  | some (m, ts) => by
    intro b next body before tag place outer last cs h
    have turns : b.otherwise? body.reverse.reverse = some next := by rwa [List.reverse_reverse]
    rw [otherwiseChunks, otherwiseNodes, List.cons_append, Assembly.pass_cons,
      Assembly.chunk_otherwise turns, ok_bind, pass_allChunks ts]
    simp only [bind_assoc, pure_bind]
    refine bind_congr fun ns => ?_
    rw [Assembly.pass_cons, Assembly.chunk_close (Block.endTag_otherwise h).symm, ok_bind,
      Block.conclude, h]
    simp

end

end Piece

/-- Well nested chunks are compiled to the nodes of their pieces. -/
theorem compileChunks_allChunks (ts : List Piece) :
    compileChunks (Piece.allChunks ts) = Piece.nodes ts := by
  show (Assembly.pass ⟨[], []⟩ (Piece.allChunks ts) >>= Assembly.finish) = _
  rw [← List.append_nil (Piece.allChunks ts), Piece.pass_allChunks]
  cases Piece.nodes ts with
  | error f => rfl
  | ok ns =>
    show Except.ok ((ns.reverse ++ []).reverse) = Except.ok ns
    rw [List.append_nil, List.reverse_reverse]

/-- A source whose chunks are well nested is compiled to the nodes of their
    pieces. -/
theorem Template.compile_of_pieces {source : String} {ts : List Piece} {ns : List Node}
    (scanned : Chunk.scan source = .ok (Piece.allChunks ts)) (built : Piece.nodes ts = .ok ns) :
    compile source = .ok ⟨ns, source⟩ := by
  rw [compile, scanned, ok_bind, compileChunks_allChunks, built]
  rfl

end Stencil
