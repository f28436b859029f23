import Stencil.Proofs.Template.Derivation

/-! # Exactly the well nested chunks are compiled

    At every moment of the pass, the chunks behind it are the complete
    pieces of the body at hand, and in front of them the beginnings of the
    blocks around it.  A beginning is known by what it can become: whatever
    body and further clauses stand behind it, together with its end tag they
    make a piece.  So a pass that comes to its end without an open block has
    read pieces. -/

namespace Stencil

open Piece

/-! ## Section 1: Beginnings of blocks -/

namespace Block

/-- Are the chunks the beginning of the block up to the body at hand?  They
    are if all that the grammar admits behind them makes a piece. -/
def Begins (place : Place) (cs : List Chunk) : Block → Prop
  | .loop h => ∀ body ns otherwise alternative last, nodes body = .ok ns →
    otherwiseNodes otherwise = .ok alternative → ∃ t : Piece,
      t.chunks = cs ++ (allChunks body ++ (otherwiseChunks otherwise ++ [.tag "endfor" last])) ∧
      t.node = .ok (.loop h ns alternative place)
  | .loopElse h ns => ∀ body ms last, nodes body = .ok ms → ∃ t : Piece,
      t.chunks = cs ++ (allChunks body ++ [.tag "endfor" last]) ∧
      t.node = .ok (.loop h ns (some ms) place)
  | .table h => ∀ body ns last, nodes body = .ok ns → ∃ t : Piece,
      t.chunks = cs ++ (allChunks body ++ [.tag "endtablerow" last]) ∧
      t.node = .ok (.table h ns place)
  | .branch negated done condition => ∀ body ns clauses branches otherwise alternative last,
    nodes body = .ok ns → conditionNodes clauses = .ok branches →
    otherwiseNodes otherwise = .ok alternative → ∃ t : Piece,
      t.chunks = cs ++ (allChunks body ++ (clauseChunks "elsif" clauses ++
        (otherwiseChunks otherwise ++ [.tag (branchEnd negated) last]))) ∧
      t.node = .ok (.branch negated (done ++ (condition, ns) :: branches) alternative place)
  | .branchElse negated done => ∀ body ns last, nodes body = .ok ns → ∃ t : Piece,
      t.chunks = cs ++ (allChunks body ++ [.tag (branchEnd negated) last]) ∧
      t.node = .ok (.branch negated done (some ns) place)
  | .choice subject => ∀ lead ns clauses bodies otherwise alternative last,
    nodes lead = .ok ns → alternativeNodes clauses = .ok bodies →
    otherwiseNodes otherwise = .ok alternative → ∃ t : Piece,
      t.chunks = cs ++ (allChunks lead ++ (clauseChunks "when" clauses ++
        (otherwiseChunks otherwise ++ [.tag "endcase" last]))) ∧
      t.node = .ok (.choice subject bodies alternative place)
  | .clause subject done alternatives => ∀ body ns clauses bodies otherwise alternative last,
    nodes body = .ok ns → alternativeNodes clauses = .ok bodies →
    otherwiseNodes otherwise = .ok alternative → ∃ t : Piece,
      t.chunks = cs ++ (allChunks body ++ (clauseChunks "when" clauses ++
        (otherwiseChunks otherwise ++ [.tag "endcase" last]))) ∧
      t.node = .ok (.choice subject (done ++ (alternatives, ns) :: bodies) alternative place)
  | .choiceElse subject done => ∀ body ns last, nodes body = .ok ns → ∃ t : Piece,
      t.chunks = cs ++ (allChunks body ++ [.tag "endcase" last]) ∧
      t.node = .ok (.choice subject done (some ns) place)

variable {place : Place} {cs : List Chunk} {body : List Piece} {ns : List Node} {m : Mark}

/-- An end tag makes a piece of a beginning. -/
theorem Begins.close {b : Block} (h : b.Begins place cs) (hbody : nodes body = .ok ns)
    (last : Mark) :
    ∃ t : Piece, t.chunks = cs ++ (allChunks body ++ [.tag b.endTag last]) ∧
      t.node = .ok (b.close place ns) := by
  cases b with
  | loop header => exact h body ns none none last hbody rfl
  | loopElse header items => exact h body ns last hbody
  | table header => exact h body ns last hbody
  | branch negated done condition => exact h body ns [] [] none none last hbody rfl rfl
  | branchElse negated done => exact h body ns last hbody
  | choice subject => exact h body ns [] [] none none last hbody rfl rfl
  | clause subject done alternatives => exact h body ns [] [] none none last hbody rfl rfl
  | choiceElse subject done => exact h body ns last hbody

theorem otherwiseNodes_some (hbody : nodes body = .ok ns) :
    otherwiseNodes (some (m, body)) = .ok (some ns) := by
  rw [otherwiseNodes, hbody]
  rfl

/-- With an `else` behind the body, a beginning is a longer one. -/
theorem Begins.otherwise {b next : Block} (h : b.Begins place cs) (hbody : nodes body = .ok ns)
    (turns : b.otherwise? ns = some next) :
    next.Begins place (cs ++ (allChunks body ++ [.tag "else" m])) := by
  -- every block that may have an alternative gets it with the nodes behind the tag
  cases b with
  | loop header =>
    cases turns
    intro more ms last hmore
    obtain ⟨t, chunks, node⟩ := h body ns (some (m, more)) (some ms) last hbody
      (otherwiseNodes_some hmore)
    exact ⟨t, by simp [chunks, otherwiseChunks], node⟩
  | branch negated done condition =>
    cases turns
    intro more ms last hmore
    obtain ⟨t, chunks, node⟩ := h body ns [] [] (some (m, more)) (some ms) last hbody rfl
      (otherwiseNodes_some hmore)
    exact ⟨t, by simp [chunks, clauseChunks, otherwiseChunks], node⟩
  | choice subject =>
    cases turns
    intro more ms last hmore
    obtain ⟨t, chunks, node⟩ := h body ns [] [] (some (m, more)) (some ms) last hbody rfl
      (otherwiseNodes_some hmore)
    exact ⟨t, by simp [chunks, clauseChunks, otherwiseChunks], node⟩
  | clause subject done alternatives =>
    cases turns
    intro more ms last hmore
    obtain ⟨t, chunks, node⟩ := h body ns [] [] (some (m, more)) (some ms) last hbody rfl
      (otherwiseNodes_some hmore)
    exact ⟨t, by simp [chunks, clauseChunks, otherwiseChunks], node⟩
  | _ => cases turns

/-- So it is with an `elsif`. -/
theorem Begins.elsif {b next : Block} (h : b.Begins place cs) (hbody : nodes body = .ok ns)
    {condition : Expr} (parsed : m.expression = .ok condition)
    (turns : b.elsif? ns condition = some next) :
    next.Begins place (cs ++ (allChunks body ++ [.tag "elsif" m])) := by
  cases b with
  | branch negated done here =>
    cases turns
    intro more ms clauses branches otherwise alternative last hmore hclauses hotherwise
    have all : conditionNodes ((m, more) :: clauses) = .ok ((condition, ms) :: branches) := by
      rw [conditionNodes, parsed, hmore, hclauses]
      rfl
    obtain ⟨t, chunks, node⟩ := h body ns ((m, more) :: clauses) _ otherwise alternative last hbody
      all hotherwise
    exact ⟨t, by simp [chunks, clauseChunks], by simp [node]⟩
  | _ => cases turns

/-- And so it is with a `when`. -/
theorem Begins.when {b next : Block} (h : b.Begins place cs) (hbody : nodes body = .ok ns)
    {alternatives : List Expr} (parsed : m.alternatives = .ok alternatives)
    (turns : b.when? ns alternatives = some next) :
    next.Begins place (cs ++ (allChunks body ++ [.tag "when" m])) := by
  -- a further clause goes in front of those to come
  have all {more : List Piece} {ms : List Node} {clauses : List (Mark × List Piece)}
      {bodies : List (List Expr × List Node)} (hmore : nodes more = .ok ms)
      (hclauses : alternativeNodes clauses = .ok bodies) :
      alternativeNodes ((m, more) :: clauses) = .ok ((alternatives, ms) :: bodies) := by
    rw [alternativeNodes, parsed, hmore, hclauses]
    rfl
  cases b with
  | choice subject =>
    cases turns
    intro more ms clauses bodies otherwise alternative last hmore hclauses hotherwise
    obtain ⟨t, chunks, node⟩ := h body ns ((m, more) :: clauses) _ otherwise alternative last hbody
      (all hmore hclauses) hotherwise
    exact ⟨t, by simp [chunks, clauseChunks], by simp [node]⟩
  | clause subject done here =>
    cases turns
    intro more ms clauses bodies otherwise alternative last hmore hclauses hotherwise
    obtain ⟨t, chunks, node⟩ := h body ns ((m, more) :: clauses) _ otherwise alternative last hbody
      (all hmore hclauses) hotherwise
    exact ⟨t, by simp [chunks, clauseChunks], by simp [node]⟩
  | _ => cases turns

end Block

/-! ## Section 2: What the pass has read -/

/-- Are the chunks those in front of the body at hand, from the beginnings
    of the blocks around it? -/
inductive Under : List Chunk → List Opened → Prop
  | nil : Under [] []
  | cons {cs ds : List Chunk} {o : Opened} {outer : List Opened} {ts : List Piece} :
      Under cs outer → nodes ts = .ok o.before.reverse → o.block.Begins o.place ds →
      Under (cs ++ (allChunks ts ++ ds)) (o :: outer)

/-- Are the chunks what the pass has read? -/
def Assembly.Reads (a : Assembly) (cs : List Chunk) : Prop :=
  ∃ ds ts, Under ds a.opened ∧ Piece.nodes ts = .ok a.body ∧ cs = ds ++ allChunks ts

theorem Piece.allChunks_append (ts us : List Piece) :
    allChunks (ts ++ us) = allChunks ts ++ allChunks us := by
  induction ts with
  | nil => simp [allChunks]
  | cons t ts ih => simp [allChunks, ih]

theorem Piece.nodes_append {ts us : List Piece} {ns ms : List Node} (ht : nodes ts = .ok ns)
    (hu : nodes us = .ok ms) : nodes (ts ++ us) = .ok (ns ++ ms) := by
  induction ts generalizing ns with
  | nil =>
    cases ht
    exact hu
  | cons t ts ih =>
    rw [nodes] at ht
    obtain ⟨n, first, ht⟩ := eq_ok_of_bind ht
    obtain ⟨ls, rest, rfl⟩ := eq_ok_of_bind_pure ht
    rw [List.cons_append, nodes, first, ih rest]
    rfl

namespace Assembly

variable {a : Assembly} {cs : List Chunk} {c : Chunk}

theorem reads_nil : Reads ⟨[], []⟩ [] :=
  ⟨[], [], .nil, rfl, rfl⟩

/-- A piece more in the body at hand. -/
theorem Reads.push (h : a.Reads cs) {t : Piece} {ds : List Chunk} {n : Node}
    (chunks : t.chunks = ds) (node : t.node = .ok n) : (a.push n).Reads (cs ++ ds) := by
  obtain ⟨front, ts, under, built, rfl⟩ := h
  have single : Piece.nodes [t] = .ok [n] := by
    rw [Piece.nodes, node]
    rfl
  refine ⟨front, ts ++ [t], under, ?_, ?_⟩
  · rw [nodes_append built single]
    simp [body, push]
  · simp [allChunks_append, allChunks, chunks]

/-- A block more around the body at hand. -/
theorem Reads.enter (h : a.Reads cs) {place : Place} {block : Block}
    (begins : block.Begins place [c]) (tag : String) :
    (a.enter tag place block).Reads (cs ++ [c]) := by
  obtain ⟨front, ts, under, built, rfl⟩ := h
  refine ⟨_, [], .cons (o := ⟨block, tag, place, a.nodes⟩) under built begins, rfl, ?_⟩
  simp [allChunks]

/-- The innermost block goes on with another body. -/
theorem Reads.turn (h : a.Reads cs) {change : List Node → Block → Option Block} {o : Opened}
    {outer : List Opened} {next : Block} (opened : a.opened = o :: outer)
    (changes : change a.body o.block = some next)
    (begins : ∀ ds ts, o.block.Begins o.place ds → Piece.nodes ts = .ok a.body →
      next.Begins o.place (ds ++ (allChunks ts ++ [c]))) :
    (a.turn change).Reads (cs ++ [c]) := by
  obtain ⟨front, ts, under, built, rfl⟩ := h
  rw [opened] at under
  cases under with
  | cons below before block =>
    have turned : a.turn change = ⟨[], { o with block := next } :: outer⟩ := by
      rw [Assembly.turn, opened]
      simp only [changes]
    rw [turned]
    have longer := begins _ ts block built
    refine ⟨_, [], .cons (o := { o with block := next }) below before longer, rfl, ?_⟩
    simp [allChunks]

/-- The innermost block is complete, and a piece of the body around it. -/
theorem Reads.leave (h : a.Reads cs) {o : Opened} {outer : List Opened} {m : Mark}
    (opened : a.opened = o :: outer) :
    a.leave.Reads (cs ++ [.tag o.block.endTag m]) := by
  obtain ⟨front, ts, under, built, rfl⟩ := h
  rw [opened] at under
  cases under with
  | @cons below ds _ _ us under before block =>
    obtain ⟨t, chunks, node⟩ := block.close built m
    -- the whole block is one more piece of the body around it
    have left : a.leave = Assembly.push ⟨o.before, outer⟩ (o.block.close o.place a.body) := by
      rw [Assembly.leave, opened]
      rfl
    have around : Reads ⟨o.before, outer⟩ (below ++ allChunks us) := ⟨_, us, under, before, rfl⟩
    rw [left]
    simpa using around.push chunks node

end Assembly

/-! ## Section 3: What a chunk does -/

/-- Is the fault one of where a tag stands, not of its arguments? -/
def Malformed.IsMisplaced : Malformed → Prop
  | .noArguments _ | .unexpectedTag _ | .undefinedTag _ => True
  | _ => False

/-- All that the pass does with a chunk, whether its arguments can be parsed
    or not. -/
inductive Assembly.Takes (a : Assembly) : Chunk → Except Failure Assembly → Prop
  | text {s : String} {position : Text.Position} :
      Takes a (.text s position) (.ok (a.push (.text s)))
  | output {m : Mark} :
      Takes a (.output m) (m.expression >>= fun e => pure (a.push (.output e m.place)))
  | assign {m : Mark} :
      Takes a (.tag "assign" m) (m.assignment >>= fun s => pure (a.push (.assign s.1 s.2 m.place)))
  | cycle {m : Mark} :
      Takes a (.tag "cycle" m) (m.cycle >>= fun c => pure (a.push (.cycle c m.place)))
  | signal {m : Mark} (stops : Bool) : m.args = "" → Takes a (.tag (signalTag stops) m)
      (.ok (a.push (.signal (if stops then .stop else .next) m.place)))
  | loop {m : Mark} : Takes a (.tag "for" m)
      (m.loopHeader >>= fun h => pure (a.enter "for" m.place (.loop h)))
  | table {m : Mark} : Takes a (.tag "tablerow" m)
      (m.loopHeader >>= fun h => pure (a.enter "tablerow" m.place (.table h)))
  | branch {m : Mark} (negated : Bool) : Takes a (.tag (branchTag negated) m)
      (m.expression >>= fun e => pure (a.enter (branchTag negated) m.place (.branch negated [] e)))
  | choice {m : Mark} : Takes a (.tag "case" m)
      (m.expression >>= fun e => pure (a.enter "case" m.place (.choice e)))
  | elsif {m : Mark} {o : Opened} {outer : List Opened} : a.opened = o :: outer →
      (∀ body e, ∃ next, o.block.elsif? body e = some next) → Takes a (.tag "elsif" m)
        (m.expression >>= fun e => pure (a.turn fun body => Block.elsif? body e))
  | when {m : Mark} {o : Opened} {outer : List Opened} : a.opened = o :: outer →
      (∀ body es, ∃ next, o.block.when? body es = some next) → Takes a (.tag "when" m)
        (m.alternatives >>= fun es => pure (a.turn fun body => Block.when? body es))
  | otherwise {m : Mark} {o : Opened} {outer : List Opened} : a.opened = o :: outer →
      (∀ body, ∃ next, o.block.otherwise? body = some next) →
      Takes a (.tag "else" m) (.ok (a.turn Block.otherwise?))
  | close {m : Mark} {o : Opened} {outer : List Opened} : a.opened = o :: outer →
      Takes a (.tag o.block.endTag m) (.ok a.leave)
  | refused {name : String} {m : Mark} {cause : Malformed} : cause.IsMisplaced →
      Takes a (.tag name m) (.error ((Fault.malformed cause).failure.blame m.place))

namespace Assembly

/-- A tag that belongs to no block around it. -/
theorem takes_standing {a : Assembly} {name : String} {m : Mark}
    (h : a.role name m.args = .standing name m.args) : a.Takes (.tag name m) (a.tag name m) := by
  rw [Assembly.tag]
  unfold Role.standing at h
  -- by the name of the tag; what is none of these is refused
  split at h
  next =>
    rw [h]
    exact .loop
  next =>
    rw [h]
    exact .table
  next =>
    rw [h]
    exact .branch false
  next =>
    rw [h]
    exact .branch true
  next =>
    rw [h]
    exact .choice
  next =>
    rw [h]
    exact .assign
  next =>
    rw [h]
    exact .cycle
  next =>
    split at h
    next bare =>
      rw [h]
      exact .signal true bare
    next =>
      rw [h]
      exact .refused trivial
  next =>
    split at h
    next bare =>
      rw [h]
      exact .signal false bare
    next =>
      rw [h]
      exact .refused trivial
  next =>
    split at h
    · rw [h]
      exact .refused trivial
    · rw [h]
      exact .refused trivial

/-- A tag that belongs to the innermost block. -/
theorem takes_inside {a : Assembly} {name : String} {m : Mark} {role : Role} {o : Opened}
    {outer : List Opened} (h : a.role name m.args = role) (opened : a.opened = o :: outer)
    (belongs : o.block.role? name = some role) : a.Takes (.tag name m) (a.tag name m) := by
  rw [Assembly.tag, h]
  unfold Block.role? at belongs
  -- the end tag first, then one case for each block and each tag that divides it
  split at belongs
  next ends =>
    cases belongs
    rw [ends]
    exact .close opened
  next =>
    split at belongs
    next block _ =>
      cases belongs
      exact .otherwise opened fun body => block ▸ ⟨_, rfl⟩
    next block _ =>
      cases belongs
      exact .otherwise opened fun body => block ▸ ⟨_, rfl⟩
    next block _ =>
      cases belongs
      exact .elsif opened fun body e => block ▸ ⟨_, rfl⟩
    next block _ =>
      cases belongs
      exact .otherwise opened fun body => block ▸ ⟨_, rfl⟩
    next block _ =>
      cases belongs
      exact .when opened fun body es => block ▸ ⟨_, rfl⟩
    next block _ =>
      cases belongs
      exact .otherwise opened fun body => block ▸ ⟨_, rfl⟩
    next block _ =>
      cases belongs
      exact .when opened fun body es => block ▸ ⟨_, rfl⟩
    next => cases belongs

theorem takes (a : Assembly) (c : Chunk) : a.Takes c (a.chunk c) := by
  cases c with
  | text s position => exact .text
  | output m => exact .output
  | tag name m =>
    show a.Takes (.tag name m) (a.tag name m)
    cases found : a.opened.head?.bind (·.block.role? name) with
    | none =>
      refine takes_standing ?_
      rw [role, found]
    | some role =>
      obtain ⟨o, head, belongs⟩ := Option.bind_eq_some_iff.1 found
      obtain ⟨outer, opened⟩ := List.head?_eq_some_iff.1 head
      refine takes_inside ?_ opened belongs
      rw [Assembly.role, found]

end Assembly

/-! ## Section 4: What is compiled is well nested -/

theorem Block.begins_loop {m : Mark} {h : LoopHeader} (parsed : m.loopHeader = .ok h) :
    (Block.loop h).Begins m.place [.tag "for" m] := by
  intro body ns otherwise alternative last hbody hotherwise
  refine ⟨.loop m body otherwise last, by rw [chunks]; rfl, ?_⟩
  rw [node, parsed, hbody, hotherwise]
  rfl

theorem Block.begins_table {m : Mark} {h : LoopHeader} (parsed : m.loopHeader = .ok h) :
    (Block.table h).Begins m.place [.tag "tablerow" m] := by
  intro body ns last hbody
  refine ⟨.table m body last, by rw [chunks]; rfl, ?_⟩
  rw [node, parsed, hbody]
  rfl

theorem Block.begins_branch {m : Mark} {e : Expr} (parsed : m.expression = .ok e)
    (negated : Bool) :
    (Block.branch negated [] e).Begins m.place [.tag (branchTag negated) m] := by
  intro body ns clauses branches otherwise alternative last hbody hclauses hotherwise
  refine ⟨.branch negated m body clauses otherwise last, by rw [chunks]; rfl, ?_⟩
  rw [node, parsed, hbody, hclauses, hotherwise]
  rfl

theorem Block.begins_choice {m : Mark} {e : Expr} (parsed : m.expression = .ok e) :
    (Block.choice e).Begins m.place [.tag "case" m] := by
  intro lead ns clauses bodies otherwise alternative last hlead hclauses hotherwise
  refine ⟨.choice m lead clauses otherwise last, by rw [chunks]; rfl, ?_⟩
  rw [node, parsed, hlead, hclauses, hotherwise]
  rfl

namespace Assembly

/-- Taking in a chunk, the pass has read one chunk more. -/
theorem Reads.chunk {a b : Assembly} {cs : List Chunk} (h : a.Reads cs) {c : Chunk}
    (taken : a.chunk c = .ok b) : b.Reads (cs ++ [c]) := by
  -- a leaf is pushed, a block is entered, turned or left; what is refused is not taken in
  have takes := a.takes c
  generalize a.chunk c = result at takes taken
  cases takes with
  | @text s position =>
    cases taken
    exact h.push (t := .text s position) rfl rfl
  | @output m =>
    obtain ⟨e, parsed, rfl⟩ := eq_ok_of_bind_pure taken
    exact h.push (t := .output m) rfl (by rw [node, parsed]; rfl)
  | @assign m =>
    obtain ⟨s, parsed, rfl⟩ := eq_ok_of_bind_pure taken
    exact h.push (t := .assign m) rfl (by rw [node, parsed]; rfl)
  | @cycle m =>
    obtain ⟨c, parsed, rfl⟩ := eq_ok_of_bind_pure taken
    exact h.push (t := .cycle m) rfl (by rw [node, parsed]; rfl)
  | @signal m stops bare =>
    cases taken
    exact h.push (t := .signal stops m bare) rfl rfl
  | loop =>
    obtain ⟨header, parsed, rfl⟩ := eq_ok_of_bind_pure taken
    exact h.enter (Block.begins_loop parsed) _
  | table =>
    obtain ⟨header, parsed, rfl⟩ := eq_ok_of_bind_pure taken
    exact h.enter (Block.begins_table parsed) _
  | branch negated =>
    obtain ⟨e, parsed, rfl⟩ := eq_ok_of_bind_pure taken
    exact h.enter (Block.begins_branch parsed negated) _
  | choice =>
    obtain ⟨e, parsed, rfl⟩ := eq_ok_of_bind_pure taken
    exact h.enter (Block.begins_choice parsed) _
  | elsif opened turns =>
    obtain ⟨e, parsed, rfl⟩ := eq_ok_of_bind_pure taken
    obtain ⟨next, turned⟩ := turns a.body e
    exact h.turn opened turned fun ds ts begins hts => begins.elsif hts parsed turned
  | when opened turns =>
    obtain ⟨es, parsed, rfl⟩ := eq_ok_of_bind_pure taken
    obtain ⟨next, turned⟩ := turns a.body es
    exact h.turn opened turned fun ds ts begins hts => begins.when hts parsed turned
  | otherwise opened turns =>
    cases taken
    obtain ⟨next, turned⟩ := turns a.body
    exact h.turn opened turned fun ds ts begins hts => begins.otherwise hts turned
  | close opened =>
    cases taken
    exact h.leave opened
  | refused => cases taken

/-- What each chunk that is taken in keeps, of the chunks so far and of what
    they have led to, a whole pass keeps. -/
theorem pass_keeps {q : List Chunk → Assembly → Prop} {a b : Assembly} {cs : List Chunk}
    (start : q [] a) (step : ∀ cs a c b, q cs a → a.chunk c = .ok b → q (cs ++ [c]) b)
    (taken : a.pass cs = .ok b) : q cs b := by
  suffices run : ∀ ds before a, q before a → a.pass ds = .ok b → q (before ++ ds) b from
    run cs [] a start taken
  intro ds
  induction ds with
  | nil =>
    intro before a kept ended
    cases ended
    rwa [List.append_nil]
  | cons d ds ih =>
    intro before a kept passed
    rw [pass_cons] at passed
    obtain ⟨mid, next, rest⟩ := eq_ok_of_bind passed
    rw [List.append_cons]
    exact ih _ mid (step before a d mid kept next) rest

theorem reads_of_pass {a : Assembly} {cs : List Chunk} (taken : Assembly.pass ⟨[], []⟩ cs = .ok a) :
    a.Reads cs :=
  pass_keeps (q := fun cs a => a.Reads cs) reads_nil (fun _ _ _ _ h next => h.chunk next) taken

end Assembly

/-- What is compiled is well nested. -/
theorem exists_pieces_of_compileChunks {cs : List Chunk} {ns : List Node}
    (compiled : compileChunks cs = .ok ns) : ∃ ts, allChunks ts = cs := by
  have passed : (Assembly.pass ⟨[], []⟩ cs >>= Assembly.finish) = .ok ns := compiled
  obtain ⟨a, ended, finished⟩ := eq_ok_of_bind passed
  obtain ⟨ds, ts, under, -, same⟩ := Assembly.reads_of_pass ended
  cases opened : a.opened with
  | nil =>
    -- outside all blocks, what the pass has read is pieces
    rw [opened] at under
    cases under
    exact ⟨ts, same.symm⟩
  | cons o outer =>
    rw [Assembly.finish, opened] at finished
    cases finished

end Stencil
