import Stencil.Proofs.Chunk.Standing
import Stencil.Proofs.Loop.Matched
import Stencil.Proofs.Statement.Parse
import Stencil.Proofs.Template.Nesting
import Stencil.Template.Render

/-! # Which tag is blamed for an expression

    A block is one node, and what goes wrong in it is blamed on the tag that
    opens it: also what goes wrong in an expression that stands in one of
    its clauses.  Beside the rendering of nodes stands one of pieces, which
    still have the marks of their clauses: it blames the mark in which an
    expression is written.  The two do the same, and tell the same faults;
    a clause is where what they blame differs. -/

namespace Stencil

open Piece

/-! ## Section 1: Where expressions stand -/

namespace Piece

/-- The mark with which a piece begins, if it is no text. -/
def mark? : Piece → Option Mark
  | .text _ _ => none
  | .output m | .assign m | .cycle m | .signal _ m _ | .loop m _ _ _ | .table m _ _
  | .branch _ m _ _ _ _ | .choice m _ _ _ _ => some m

mutual

/-- The marks of a piece that are rendered, each with the one that begins the
    piece it belongs to: a clause belongs to its block. -/
def sites : Piece → List (Mark × Mark)
  | .text _ _ => []
  | .output m | .assign m | .cycle m | .signal _ m _ => [(m, m)]
  | .loop m body otherwise _ => (m, m) :: (allSites body ++ otherwiseSites otherwise)
  | .table m body _ => (m, m) :: allSites body
  | .branch _ m body clauses otherwise _ =>
    (m, m) :: (allSites body ++ (clauseSites m clauses ++ otherwiseSites otherwise))
  | .choice m _ clauses otherwise _ =>
    (m, m) :: (clauseSites m clauses ++ otherwiseSites otherwise)

/-- The marks of pieces. -/
def allSites : List Piece → List (Mark × Mark)
  | [] => []
  | t :: ts => sites t ++ allSites ts

/-- The marks of the clauses of a block, and of their bodies. -/
def clauseSites (opener : Mark) : List (Mark × List Piece) → List (Mark × Mark)
  | [] => []
  | (m, body) :: rest => (m, opener) :: (allSites body ++ clauseSites opener rest)

/-- The marks of the body of an `else`, which has no expression itself. -/
def otherwiseSites : Option (Mark × List Piece) → List (Mark × Mark)
  | none => []
  | some (_, body) => allSites body

end

theorem mem_sites_of_mark? {t : Piece} {m : Mark} (h : t.mark? = some m) : (m, m) ∈ t.sites := by
  cases t with
  | text => cases h
  | output | assign | cycle | signal =>
    cases h
    rw [sites]
    exact List.mem_singleton_self _
  | loop | table | branch | choice =>
    cases h
    rw [sites]
    exact List.mem_cons_self

end Piece

/-- Is the second of two marks one of the chunks, and the first one the same,
    or that of a clause among the chunks? -/
structure Piece.StandsAmong (cs : List Chunk) (s : Mark × Mark) : Prop where
  first : ∃ c ∈ cs, c.mark? = some s.2
  clause : s.2 = s.1 ∨ .tag "elsif" s.1 ∈ cs ∨ .tag "when" s.1 ∈ cs

namespace Piece

theorem StandsAmong.mono {cs ds : List Chunk} {s : Mark × Mark} (h : StandsAmong cs s)
    (more : ∀ c ∈ cs, c ∈ ds) : StandsAmong ds s := by
  obtain ⟨c, member, marked⟩ := h.first
  exact ⟨⟨c, more c member, marked⟩, h.clause.imp_right (Or.imp (more _) (more _))⟩

theorem standsAmong_self {c : Chunk} {cs : List Chunk} {m : Mark} (h : c.mark? = some m) :
    StandsAmong (c :: cs) (m, m) :=
  ⟨⟨c, List.mem_cons_self, h⟩, .inl rfl⟩

mutual

/-- The marks of a piece are those of its chunks. -/
theorem sites_stand : (t : Piece) → ∀ s ∈ t.sites, StandsAmong t.chunks s
  | .text _ _, s, member => by
    rw [sites] at member
    cases member
  | .output m, s, member | .assign m, s, member | .cycle m, s, member
  | .signal _ m _, s, member => by
    rw [sites] at member
    cases List.mem_singleton.1 member
    rw [chunks]
    exact standsAmong_self rfl
  | .loop m body otherwise last, s, member => by
    rw [sites] at member
    rw [chunks]
    rcases List.mem_cons.1 member with rfl | member
    · exact standsAmong_self rfl
    · rcases List.mem_append.1 member with inner | other
      · exact (allSites_stand body s inner).mono fun c hc => by simp [hc]
      · exact (otherwiseSites_stand otherwise s other).mono fun c hc => by simp [hc]
  | .table m body last, s, member => by
    rw [sites] at member
    rw [chunks]
    rcases List.mem_cons.1 member with rfl | member
    · exact standsAmong_self rfl
    · exact (allSites_stand body s member).mono fun c hc => by simp [hc]
  | .branch negated m body clauses otherwise last, s, member => by
    rw [sites] at member
    rw [chunks]
    rcases List.mem_cons.1 member with rfl | member
    · exact standsAmong_self rfl
    · rcases List.mem_append.1 member with inner | member
      · exact (allSites_stand body s inner).mono fun c hc => by simp [hc]
      · rcases List.mem_append.1 member with clause | other
        · rcases clauseSites_stand "elsif" clauses m s clause with ⟨opener, here⟩ | inner
          · exact ⟨⟨_, List.mem_cons_self, by rw [opener]; rfl⟩, .inr (.inl (by simp [here]))⟩
          · exact inner.mono fun c hc => by simp [hc]
        · exact (otherwiseSites_stand otherwise s other).mono fun c hc => by simp [hc]
  | .choice m lead clauses otherwise last, s, member => by
    rw [sites] at member
    rw [chunks]
    rcases List.mem_cons.1 member with rfl | member
    · exact standsAmong_self rfl
    · rcases List.mem_append.1 member with clause | other
      · rcases clauseSites_stand "when" clauses m s clause with ⟨opener, here⟩ | inner
        · exact ⟨⟨_, List.mem_cons_self, by rw [opener]; rfl⟩, .inr (.inr (by simp [here]))⟩
        · exact inner.mono fun c hc => by simp [hc]
      · exact (otherwiseSites_stand otherwise s other).mono fun c hc => by simp [hc]

theorem allSites_stand : (ts : List Piece) → ∀ s ∈ allSites ts, StandsAmong (allChunks ts) s
  | [], s, member => by
    rw [allSites] at member
    cases member
  | t :: ts, s, member => by
    rw [allSites] at member
    rw [allChunks]
    rcases List.mem_append.1 member with here | later
    · exact (sites_stand t s here).mono fun c => List.mem_append_left _
    · exact (allSites_stand ts s later).mono fun c => List.mem_append_right _

/-- A clause belongs to the block around it. -/
theorem clauseSites_stand (tag : String) : (clauses : List (Mark × List Piece)) →
    (first : Mark) → ∀ s ∈ clauseSites first clauses,
      (s.2 = first ∧ .tag tag s.1 ∈ clauseChunks tag clauses) ∨
        StandsAmong (clauseChunks tag clauses) s
  | [], first, s, member => by
    rw [clauseSites] at member
    cases member
  | (m, body) :: rest, first, s, member => by
    rw [clauseSites] at member
    rw [clauseChunks]
    rcases List.mem_cons.1 member with rfl | member
    · exact .inl ⟨rfl, List.mem_cons_self⟩
    · rcases List.mem_append.1 member with inner | later
      · exact .inr ((allSites_stand body s inner).mono fun c hc => by simp [hc])
      · rcases clauseSites_stand tag rest first s later with ⟨opener, here⟩ | inner
        · exact .inl ⟨opener, by simp [here]⟩
        · exact .inr (inner.mono fun c hc => by simp [hc])

theorem otherwiseSites_stand : (otherwise : Option (Mark × List Piece)) →
    ∀ s ∈ otherwiseSites otherwise, StandsAmong (otherwiseChunks otherwise) s
  | none, s, member => by
    rw [otherwiseSites] at member
    cases member
  | some (m, body), s, member => by
    rw [otherwiseSites] at member
    rw [otherwiseChunks]
    exact (allSites_stand body s member).mono fun c => List.mem_cons_of_mem _

end

end Piece

/-! ## Section 2: Rendering pieces -/

/-- What has been parsed, or the failure to parse it. -/
def Render.parsed {α : Type} : Except Failure α → Render α
  | .ok a => pure a
  | .error f => throw f

/-- The value of an expression that is written in a mark. -/
def Mark.eval (m : Mark) (engine : Engine) (e : Expr) : Render Value :=
  Render.blaming m.place (Render.eval engine e)

/-- Is one of the alternatives in a mark equal to the subject? -/
def Mark.anyEqual (m : Mark) (engine : Engine) (subject : Value) : List Expr → Render Bool
  | [] => pure false
  | e :: es => do
    let v ← m.eval engine e
    if ← Render.lift (v.equal subject) then return true else m.anyEqual engine subject es

namespace Piece

mutual

/-- Renders a piece.  What the expressions fail with is blamed on the mark in
    which they are written. -/
def render (engine : Engine) : Piece → Render Signal
  | .text s _ => Node.render engine (.text s)
  | .output m => do
    let e ← Render.parsed m.expression
    Node.render engine (.output e m.place)
  | .assign m => do
    let s ← Render.parsed m.assignment
    Node.render engine (.assign s.1 s.2 m.place)
  | .cycle m => do
    let c ← Render.parsed m.cycle
    Node.render engine (.cycle c m.place)
  | .signal stops m _ => Node.render engine (.signal (if stops then .stop else .next) m.place)
  | .loop m body otherwise _ => do
    let h ← Render.parsed m.loopHeader
    runFor engine h (renderAll engine body) (some (renderOtherwise engine otherwise))
  | .table m body _ => do
    let h ← Render.parsed m.loopHeader
    runTable engine h (renderAll engine body)
  | .branch negated m body clauses otherwise _ => do
    let condition ← Render.parsed m.expression
    let v ← m.eval engine condition
    let truth ← Render.lift v.truth
    if truth != negated then renderAll engine body
    else renderConditions engine (renderOtherwise engine otherwise) clauses
  | .choice m _ clauses otherwise _ => do
    let subject ← Render.parsed m.expression
    let v ← m.eval engine subject
    renderAlternatives engine v (renderOtherwise engine otherwise) clauses

/-- Renders pieces in order, each at a moment of its own, up to the first
    signal.  What nothing is blamed for yet is blamed on the mark with which
    the piece begins. -/
def renderAll (engine : Engine) : List Piece → Render Signal
  | [] => pure .none
  | t :: ts => do
    Render.tick
    let signal ← Node.blamingOption (t.mark?.map Mark.place) (render engine t)
    if signal = .none then renderAll engine ts else return signal

/-- Renders the first clause whose condition holds. -/
def renderConditions (engine : Engine) (alternative : Render Signal) :
    List (Mark × List Piece) → Render Signal
  | [] => alternative
  | (m, body) :: rest => do
    let condition ← Render.parsed m.expression
    let v ← m.eval engine condition
    let truth ← Render.lift v.truth
    if truth then renderAll engine body else renderConditions engine alternative rest

/-- Renders the first clause that has an alternative equal to the subject. -/
def renderAlternatives (engine : Engine) (subject : Value) (alternative : Render Signal) :
    List (Mark × List Piece) → Render Signal
  | [] => alternative
  | (m, body) :: rest => do
    let alternatives ← Render.parsed m.alternatives
    if ← m.anyEqual engine subject alternatives then renderAll engine body
    else renderAlternatives engine subject alternative rest

/-- Renders the body of an `else`, if there is one. -/
def renderOtherwise (engine : Engine) : Option (Mark × List Piece) → Render Signal
  | none => pure .none
  | some (_, body) => renderAll engine body

end

end Piece

/-! ## Section 3: What is blamed -/

/-- A place is blamed for a fault that can be reported and names none
    itself, and for no other. -/
theorem Fault.blame_cases (fault : Fault) (place : Place) :
    (fault.reportable = true ∧ fault.place? = none ∧
      fault.failure.blame place = ⟨fault, some place⟩) ∨
    ((fault.reportable = true → fault.place? ≠ none) ∧
      fault.failure.blame place = fault.failure) := by
  unfold Failure.blame Fault.failure
  by_cases blamed : fault.reportable = true ∧ fault.place? = none
  · obtain ⟨reportable, unplaced⟩ := blamed
    exact .inl ⟨reportable, unplaced, by simp [reportable, unplaced]⟩
  · exact .inr ⟨not_and.1 blamed, if_neg (by simpa using blamed)⟩

theorem Failure.blame_of_place {f : Failure} {place p : Place} (h : f.place = some p) :
    f.blame place = f := by
  unfold Failure.blame
  rw [h]
  simp

/-- Is the first failure that of a rendering, and the second one the same as
    it is written?  The first is blamed on the beginning of the piece to
    which the mark of the second belongs.  For what cannot be reported, or
    names a place itself, nothing is blamed.  Inside the piece that begins
    with `opener`, this is still to be done. -/
inductive Failure.Located (sites : List (Mark × Mark)) (opener : Option Mark) :
    Failure → Failure → Prop
  | own (fault : Fault) :
      (opener = none → fault.reportable = true → fault.place? ≠ none) →
      Located sites opener fault.failure fault.failure
  | site {fault : Fault} {m first : Mark} : (m, first) ∈ sites →
      Located sites opener ⟨fault, some first.place⟩ ⟨fault, some m.place⟩
  | pending {fault : Fault} {m first : Mark} : opener = some first → (m, first) ∈ sites →
      fault.reportable = true → fault.place? = none →
      Located sites opener ⟨fault, none⟩ ⟨fault, some m.place⟩

namespace Failure.Located

variable {sites sites' : List (Mark × Mark)} {opener : Option Mark} {f g : Failure}

theorem mono (h : Located sites none f g) (more : ∀ s ∈ sites, s ∈ sites') :
    Located sites' opener f g := by
  cases h with
  | own fault unblamed => exact .own fault fun _ => unblamed rfl
  | site member => exact .site (more _ member)
  | pending none => cases none

/-- Nothing is blamed yet for what a step inside a piece fails with. -/
theorem unblamed {first : Mark} (fault : Fault) :
    Located sites (some first) fault.failure fault.failure :=
  .own fault nofun

/-- At the beginning of the piece, what is pending is settled. -/
theorem blame {first : Mark} (h : Located sites (some first) f g) (member : (first, first) ∈ sites) :
    Located sites none (f.blame first.place) (g.blame first.place) := by
  -- what has a place keeps it, and the rest is settled with that of the first mark
  cases h with
  | own fault =>
    rcases fault.blame_cases first.place with ⟨-, -, settled⟩ | ⟨beyond, untouched⟩
    · rw [settled]
      exact .site member
    · rw [untouched]
      exact .own fault fun _ => beyond
  | site other =>
    rw [blame_of_place rfl, blame_of_place rfl]
    exact .site other
  | @pending fault m _ same other reportable _ =>
    cases same
    have settled : (⟨fault, none⟩ : Failure).blame first.place = ⟨fault, some first.place⟩ := by
      unfold Failure.blame
      simp [reportable]
    rw [settled, blame_of_place rfl]
    exact .site other

end Failure.Located

namespace Render

variable {α : Type} {sites : List (Mark × Mark)} {engine : Engine}

theorem Matches.blamingOption {x y : Render α} {first : Option Mark}
    (h : Matches (Failure.Located sites first) x y) (member : ∀ m ∈ first, (m, m) ∈ sites) :
    Matches (Failure.Located sites none) (Node.blamingOption (first.map Mark.place) x)
      (Node.blamingOption (first.map Mark.place) y) := by
  cases first with
  | none => exact h
  | some m =>
    intro run
    have outcome := h run
    show Run.Matched _ (blaming m.place x run) (blaming m.place y run)
    unfold blaming
    generalize x run = left at outcome ⊢
    generalize y run = right at outcome ⊢
    cases outcome with
    | ok a after => exact .ok a after
    | error after related => exact .error after (related.blame (member m rfl))

/-- What an expression fails with is pending where it stands in a clause, and
    blamed on the clause as written. -/
theorem matches_mark_eval {m first : Mark} (member : (m, first) ∈ sites) (e : Expr) :
    Matches (Failure.Located sites (some first)) (eval engine e) (m.eval engine e) := by
  intro run
  obtain ⟨after, -, ended⟩ := evaluate_ends engine (fun filters names => e.eval filters names)
    (fun filters names => e.passedThrough filters names) run
  show Run.Matched _ (eval engine e run) (blaming m.place (eval engine e) run)
  unfold blaming
  have evaluated : eval engine e run = _ := ended
  rw [evaluated]
  cases e.eval (engine.filters.atMoment run.moment) run.scope.names with
  | ok v => exact .ok v after
  | error fault =>
    apply Run.Matched.error after
    -- the one rendering leaves the fault pending where the other blames the mark
    rcases fault.blame_cases m.place with ⟨reportable, unplaced, settled⟩ | ⟨-, untouched⟩
    · rw [settled, Fault.failure, unplaced]
      exact .pending rfl member reportable unplaced
    · rw [untouched]
      exact .unblamed fault

theorem matches_mark_anyEqual {m first : Mark} (member : (m, first) ∈ sites) (subject : Value)
    (es : List Expr) :
    Matches (Failure.Located sites (some first)) (Node.anyEqual engine subject es)
      (m.anyEqual engine subject es) := by
  induction es with
  | nil => exact matches_pure false
  | cons e es ih =>
    apply (matches_mark_eval member e).bind
    intro v
    apply (matches_lift .unblamed _).bind
    intro same
    cases same with
    | true => exact matches_pure true
    | false => exact ih

/-- What matches inside a piece matches in it. -/
theorem Matches.inside {sites' : List (Mark × Mark)} {opener : Option Mark} {x y : Render α}
    (h : Matches (Failure.Located sites none) x y) (more : ∀ s ∈ sites, s ∈ sites') :
    Matches (Failure.Located sites' opener) x y :=
  h.mono fun _ _ located => located.mono more

end Render

/-! ## Section 4: The two renderings match -/

namespace Piece

variable {engine : Engine}

mutual

/-- The node of a piece is rendered as the piece is, and blamed on the mark
    with which the piece begins. -/
theorem render_matches : (t : Piece) → {n : Node} → t.node = .ok n →
    n.place? = t.mark?.map Mark.place ∧
      Render.Matches (Failure.Located t.sites t.mark?) (n.render engine) (t.render engine)
  | .text s position, n, built => by
    cases built
    refine ⟨rfl, ?_⟩
    rw [render, Node.render]
    exact (Render.matches_modify _).bind fun _ => Render.matches_pure _
  | .output m, n, built => by
    rw [node] at built
    obtain ⟨e, parsed, rfl⟩ := eq_ok_of_bind_pure built
    refine ⟨rfl, ?_⟩
    rw [render, parsed, Render.parsed, pure_bind, Node.render]
    apply (Render.matches_evaluate .unblamed _ _).bind
    intro v
    apply (Render.matches_lift .unblamed _).bind
    exact fun _ => (Render.matches_modify _).bind fun _ => Render.matches_pure _
  | .assign m, n, built => by
    rw [node] at built
    obtain ⟨s, parsed, rfl⟩ := eq_ok_of_bind_pure built
    refine ⟨rfl, ?_⟩
    rw [render, parsed, Render.parsed, pure_bind, Node.render]
    apply (Render.matches_evaluate .unblamed _ _).bind
    exact fun _ => (Render.matches_modify _).bind fun _ => Render.matches_pure _
  | .cycle m, n, built => by
    rw [node] at built
    obtain ⟨c, parsed, rfl⟩ := eq_ok_of_bind_pure built
    refine ⟨rfl, ?_⟩
    rw [render, parsed, Render.parsed, pure_bind, Node.render]
    apply (matches_runCycle .unblamed c).bind
    exact fun _ => (Render.matches_modify _).bind fun _ => Render.matches_pure _
  | .signal stops m bare, n, built => by
    cases built
    refine ⟨rfl, ?_⟩
    rw [render, Node.render]
    exact Render.matches_pure _
  | .loop m body otherwise last, n, built => by
    rw [node] at built
    obtain ⟨h, parsed, built⟩ := eq_ok_of_bind built
    obtain ⟨ns, inner, built⟩ := eq_ok_of_bind built
    obtain ⟨alternative, other, rfl⟩ := eq_ok_of_bind_pure built
    refine ⟨rfl, ?_⟩
    rw [render, parsed, Render.parsed, pure_bind, Node.render, sites]
    apply matches_runFor .unblamed h
    · exact (renderAll_matches body inner).inside fun s hs => by simp [hs]
    · exact (renderOtherwise_matches otherwise other).inside fun s hs => by simp [hs]
  | .table m body last, n, built => by
    rw [node] at built
    obtain ⟨h, parsed, built⟩ := eq_ok_of_bind built
    obtain ⟨ns, inner, rfl⟩ := eq_ok_of_bind_pure built
    refine ⟨rfl, ?_⟩
    rw [render, parsed, Render.parsed, pure_bind, Node.render, sites]
    apply matches_runTable .unblamed h
    exact (renderAll_matches body inner).inside fun s hs => by simp [hs]
  | .branch negated m body clauses otherwise last, n, built => by
    rw [node] at built
    obtain ⟨condition, parsed, built⟩ := eq_ok_of_bind built
    obtain ⟨ns, inner, built⟩ := eq_ok_of_bind built
    obtain ⟨branches, between, built⟩ := eq_ok_of_bind built
    obtain ⟨alternative, other, rfl⟩ := eq_ok_of_bind_pure built
    refine ⟨rfl, ?_⟩
    rw [render, parsed, Render.parsed, pure_bind, Node.render, Node.renderBranches, sites]
    apply (Render.matches_mark_eval List.mem_cons_self condition).bind
    intro v
    apply (Render.matches_lift .unblamed _).bind
    intro truth
    split
    · exact (renderAll_matches body inner).inside fun s hs => by simp [hs]
    · apply renderConditions_matches clauses between
      · exact (renderOtherwise_matches otherwise other).inside fun s hs => by simp [hs]
      · exact fun s hs => by simp [hs]
  | .choice m lead clauses otherwise last, n, built => by
    rw [node] at built
    obtain ⟨subject, parsed, built⟩ := eq_ok_of_bind built
    obtain ⟨ns, -, built⟩ := eq_ok_of_bind built
    obtain ⟨bodies, between, built⟩ := eq_ok_of_bind built
    obtain ⟨alternative, other, rfl⟩ := eq_ok_of_bind_pure built
    refine ⟨rfl, ?_⟩
    rw [render, parsed, Render.parsed, pure_bind, Node.render, sites]
    apply (Render.matches_mark_eval List.mem_cons_self subject).bind
    intro v
    apply renderAlternatives_matches clauses between
    · exact (renderOtherwise_matches otherwise other).inside fun s hs => by simp [hs]
    · exact fun s hs => by simp [hs]

theorem renderAll_matches : (ts : List Piece) → {ns : List Node} → nodes ts = .ok ns →
    Render.Matches (Failure.Located (allSites ts) none) (Node.renderAll engine ns)
      (renderAll engine ts)
  | [], ns, built => by
    cases built
    rw [renderAll, Node.renderAll]
    exact Render.matches_pure _
  | t :: ts, ns, built => by
    rw [nodes] at built
    obtain ⟨n, first, built⟩ := eq_ok_of_bind built
    obtain ⟨ms, rest, rfl⟩ := eq_ok_of_bind_pure built
    obtain ⟨place, here⟩ := render_matches t first
    rw [renderAll, Node.renderAll, allSites, place]
    apply (Render.matches_modify _).bind
    intro _
    have blamed := here.blamingOption fun m hm => mem_sites_of_mark? hm
    apply (blamed.inside fun s hs => List.mem_append_left _ hs).bind
    intro signal
    split
    · exact (renderAll_matches ts rest).inside fun s hs => List.mem_append_right _ hs
    · exact Render.matches_pure _

theorem renderConditions_matches : (clauses : List (Mark × List Piece)) →
    {branches : List (Expr × List Node)} → conditionNodes clauses = .ok branches →
    {all : List (Mark × Mark)} → {first : Mark} → {alternative alternative' : Render Signal} →
    Render.Matches (Failure.Located all (some first)) alternative alternative' →
    (∀ s ∈ clauseSites first clauses, s ∈ all) →
    Render.Matches (Failure.Located all (some first))
      (Node.renderBranches engine false alternative branches)
      (renderConditions engine alternative' clauses)
  | [], branches, built, _, _, _, _, other, _ => by
    cases built
    rw [renderConditions, Node.renderBranches]
    exact other
  | (m, body) :: rest, branches, built, all, first, _, _, other, more => by
    rw [conditionNodes] at built
    obtain ⟨condition, parsed, built⟩ := eq_ok_of_bind built
    obtain ⟨ns, inner, built⟩ := eq_ok_of_bind built
    obtain ⟨between, later, rfl⟩ := eq_ok_of_bind_pure built
    rw [clauseSites] at more
    rw [renderConditions, parsed, Render.parsed, pure_bind, Node.renderBranches]
    apply (Render.matches_mark_eval (more _ List.mem_cons_self) condition).bind
    intro v
    apply (Render.matches_lift .unblamed _).bind
    intro truth
    cases truth with
    | true => exact (renderAll_matches body inner).inside fun s hs => more s (by simp [hs])
    | false =>
      exact renderConditions_matches rest later other fun s hs => more s (by simp [hs])

theorem renderAlternatives_matches : (clauses : List (Mark × List Piece)) →
    {bodies : List (List Expr × List Node)} → alternativeNodes clauses = .ok bodies →
    {all : List (Mark × Mark)} → {first : Mark} → {alternative alternative' : Render Signal} →
    Render.Matches (Failure.Located all (some first)) alternative alternative' →
    (∀ s ∈ clauseSites first clauses, s ∈ all) → {subject : Value} →
    Render.Matches (Failure.Located all (some first))
      (Node.renderClauses engine subject alternative bodies)
      (renderAlternatives engine subject alternative' clauses)
  | [], bodies, built, _, _, _, _, other, _, _ => by
    cases built
    rw [renderAlternatives, Node.renderClauses]
    exact other
  | (m, body) :: rest, bodies, built, all, first, _, _, other, more, subject => by
    rw [alternativeNodes] at built
    obtain ⟨alternatives, parsed, built⟩ := eq_ok_of_bind built
    obtain ⟨ns, inner, built⟩ := eq_ok_of_bind built
    obtain ⟨between, later, rfl⟩ := eq_ok_of_bind_pure built
    rw [clauseSites] at more
    rw [renderAlternatives, parsed, Render.parsed, pure_bind, Node.renderClauses]
    apply (Render.matches_mark_anyEqual (more _ List.mem_cons_self) subject alternatives).bind
    intro equal
    cases equal with
    | true => exact (renderAll_matches body inner).inside fun s hs => more s (by simp [hs])
    | false =>
      exact renderAlternatives_matches rest later other fun s hs => more s (by simp [hs])

theorem renderOtherwise_matches : (otherwise : Option (Mark × List Piece)) →
    {alternative : Option (List Node)} → otherwiseNodes otherwise = .ok alternative →
    Render.Matches (Failure.Located (otherwiseSites otherwise) none)
      (Node.renderOption engine alternative) (renderOtherwise engine otherwise)
  | none, alternative, built => by
    cases built
    rw [renderOtherwise, Node.renderOption]
    exact Render.matches_pure _
  | some (m, body), alternative, built => by
    rw [otherwiseNodes] at built
    obtain ⟨ns, inner, rfl⟩ := eq_ok_of_bind_pure built
    rw [renderOtherwise, Node.renderOption, otherwiseSites]
    exact renderAll_matches body inner

end

end Piece

/-! ## Section 5: What a template is blamed for -/

/-- What is compiled are the pieces of the chunks. -/
theorem Template.exists_pieces {source : String} {t : Template}
    (compiled : Template.compile source = .ok t) :
    ∃ ts, Chunk.scan source = .ok (allChunks ts) ∧ Piece.nodes ts = .ok t.nodes := by
  obtain ⟨cs, scanned, compiled⟩ := eq_ok_of_bind compiled
  obtain ⟨ns, nested, rfl⟩ := eq_ok_of_bind_pure compiled
  obtain ⟨ts, rfl⟩ := exists_pieces_of_compileChunks nested
  exact ⟨ts, scanned, (compileChunks_allChunks ts).symm.trans nested⟩

/-- What is reported and names no place itself is blamed on the beginning of
    a piece, and as written on a mark that belongs to it. -/
theorem Failure.Located.exists_site {sites : List (Mark × Mark)} {f g : Failure}
    (h : Failure.Located sites none f g) :
    g.fault = f.fault ∧ (f.fault.reportable = true → f.fault.place? = none →
      ∃ m first, (m, first) ∈ sites ∧ g.place = some m.place ∧ f.place = some first.place) := by
  cases h with
  | own fault unblamed => exact ⟨rfl, fun reportable none => absurd none (unblamed rfl reportable)⟩
  | @site fault m first member => exact ⟨rfl, fun _ _ => ⟨m, first, member, rfl, rfl⟩⟩
  | pending none => cases none

/-- Are the nodes rendered as the pieces are, and is a failure blamed as it is
    there, on the tag in which the failing expression is written, unless that
    is a clause?  In place of a clause, the tag is blamed that opens its
    block. -/
structure Piece.Attributes (ts : List Piece) (ns : List Node) (engine : Engine) (run : Run) :
    Prop where
  ok : ∀ signal after, Node.renderAll engine ns run = .ok signal after →
    renderAll engine ts run = .ok signal after
  error : ∀ f after, Node.renderAll engine ns run = .error f after →
    ∃ g, renderAll engine ts run = .error g after ∧ g.fault = f.fault ∧
      (f.fault.reportable = true → f.fault.place? = none →
        ∃ m first, (m, first) ∈ allSites ts ∧ g.place = some m.place ∧
          f.place = some first.place ∧
          (first = m ∨ .tag "elsif" m ∈ allChunks ts ∨ .tag "when" m ∈ allChunks ts))

/-- What fails while a template is rendered is blamed on the tag in which the
    failing expression is written; if that is an `elsif` or a `when`, it is
    blamed on the tag that opens the block. -/
theorem Template.blamed_on_openers {source : String} {t : Template}
    (compiled : Template.compile source = .ok t) :
    ∃ ts, Chunk.scan source = .ok (allChunks ts) ∧
      ∀ (engine : Engine) (run : Run), Attributes ts t.nodes engine run := by
  obtain ⟨ts, scanned, built⟩ := Template.exists_pieces compiled
  refine ⟨ts, scanned, fun engine run => ?_⟩
  -- the nodes are rendered as the pieces are, and fail together with them
  have outcome : Run.Matched _ (Node.renderAll engine t.nodes run) (Piece.renderAll engine ts run) :=
    renderAll_matches ts built run
  constructor
  · intro signal after ended
    rw [ended] at outcome
    generalize Piece.renderAll engine ts run = written at outcome ⊢
    cases outcome with
    | ok => rfl
  · intro f after ended
    rw [ended] at outcome
    generalize Piece.renderAll engine ts run = written at outcome ⊢
    cases outcome with
    | @error _ g _ located =>
      obtain ⟨same, blamed⟩ := located.exists_site
      refine ⟨g, rfl, same, fun reportable unplaced => ?_⟩
      obtain ⟨m, first, site, written, rendered⟩ := blamed reportable unplaced
      exact ⟨m, first, site, written, rendered, (allSites_stand ts _ site).clause⟩

/-! ### A clause that is not blamed -/

/-- A condition, and behind it a clause with an undefined filter. -/
def clauseSource : String :=
  "\x7b% if false %\x7d\x7b% elsif a | nope %\x7d\x7b% endif %\x7d"

/-- The tag that opens the block. -/
def clauseOpener : Mark :=
  ⟨"\x7b% if false %\x7d", ⟨1, 1⟩, "false", false, false⟩

/-- The clause. -/
def clauseMark : Mark :=
  ⟨"\x7b% elsif a | nope %\x7d", ⟨1, 15⟩, "a | nope", false, false⟩

/-- The only piece of that source. -/
def clausePiece : Piece :=
  .branch false clauseOpener [] [(clauseMark, [])] none
    ⟨"\x7b% endif %\x7d", ⟨1, 35⟩, "", false, false⟩

/-- The template of that source. -/
def clauseTemplate : Template :=
  ⟨[.branch false [(.literal (.bool false), []), (.filter (.var "a") "nope" [], [])] none
    clauseOpener.place], clauseSource⟩

theorem scan_clauseSource : Chunk.scan clauseSource = .ok (allChunks [clausePiece]) := by
  rfl

theorem expression_clauseOpener : clauseOpener.expression = .ok (.literal (.bool false)) := by
  have name : IsName "false".toList := isName_ofList rfl rfl
  have written : (Expr.literal (.bool false)).IsWritten "false" :=
    written_lastWord name rfl
  rw [Mark.expression, clauseOpener, Expr.parseExpression_written written]
  rfl

theorem expression_clauseMark : clauseMark.expression = .ok (.filter (.var "a") "nope" []) := by
  have a : IsName "a".toList := isName_ofList rfl rfl
  have nope : IsName "nope".toList := isName_ofList rfl rfl
  have written : (Expr.filter (.var "a") "nope" []).IsWritten "a | nope" := by
    have behind : Written [.operator .pipe, .identifier "nope"]
        " | nope".toList :=
      .blank rfl (.lexeme (Lexeme.written_pipe _) (.blank rfl (written_lastWord nope rfl)))
    exact .lexeme (Lexeme.written_word a rfl _) behind
  rw [Mark.expression, clauseMark, Expr.parseExpression_written written]
  rfl

theorem compile_clauseSource : Template.compile clauseSource = .ok clauseTemplate := by
  have built : nodes [clausePiece] = .ok clauseTemplate.nodes := by
    simp only [clausePiece, nodes, node, conditionNodes, otherwiseNodes, expression_clauseOpener,
      expression_clauseMark]
    rfl
  exact Template.compile_of_pieces scan_clauseSource built

theorem Template.clauseSource_blamed :
    Template.compile clauseSource = .ok clauseTemplate ∧
      ∃ ts, Chunk.scan clauseSource = .ok (allChunks ts) ∧
        ∀ (engine : Engine) (run : Run), Attributes ts clauseTemplate.nodes engine run :=
  ⟨compile_clauseSource, Template.blamed_on_openers compile_clauseSource⟩

/-- The state in which that template is rendered without bindings. -/
def clauseRun : Run :=
  ⟨.ofBindings [], #[], #[], 0⟩

theorem renderAll_clauseTemplate :
    Node.renderAll (.standard .standard) clauseTemplate.nodes clauseRun =
      .error ⟨.undefinedFilter "nope", some clauseOpener.place⟩ { clauseRun with moment := 1 } := by
  rfl

theorem renderAll_clausePiece :
    Piece.renderAll (.standard .standard) [clausePiece] clauseRun =
      .error ⟨.undefinedFilter "nope", some clauseMark.place⟩ { clauseRun with moment := 1 } := by
  simp only [clausePiece, Piece.renderAll, Piece.render, renderConditions,
    expression_clauseOpener, expression_clauseMark]
  rfl

/-- So what is blamed is not always the tag in which the failing expression
    is written: here it is the tag in front of the clause with the filter. -/
theorem clauseSource_misattributed :
    ¬ ∀ (source : String) (t : Template) (ts : List Piece), Template.compile source = .ok t →
      Chunk.scan source = .ok (allChunks ts) → ∀ (engine : Engine) (run : Run) (f g : Failure)
        (after : Run), Node.renderAll engine t.nodes run = .error f after →
        Piece.renderAll engine ts run = .error g after → f.place = g.place := by
  intro always
  have same := always _ _ _ compile_clauseSource scan_clauseSource _ _ _ _ _
    renderAll_clauseTemplate renderAll_clausePiece
  have lines : clauseOpener.place.col = clauseMark.place.col :=
    congrArg Place.col (Option.some.inj same)
  cases lines

end Stencil
