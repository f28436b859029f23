import Stencil.Proofs.Report
import Stencil.Proofs.Template.Acceptance
import Stencil.Proofs.Template.Attribution

/-! # What a report points at

    Whatever can be reported is blamed on an output or tag of the source: a
    scan on a block without its end, a compilation on the chunk that it does
    not take in or on the block that it leaves open, and a rendering on the
    beginning of a piece.  The one exception is a signal that reaches the
    root, for which nothing is to blame. -/

namespace Stencil

open Piece

/-! ## Section 1: Compiling -/

/-- Is the failure blamed on an output or tag of the source, if it can be
    reported? -/
def Failure.BlamedIn (source : String) (f : Failure) : Prop :=
  f.fault.reportable = true → ∃ m : Mark, m.StandsIn source ∧ f.place = some m.place

section

variable {source : String}

theorem Mark.blame_blamedIn {m : Mark} (h : m.StandsIn source) {fault : Fault}
    (unplaced : fault.place? = none) : (fault.failure.blame m.place).BlamedIn source := by
  intro reportable
  rcases fault.blame_cases m.place with ⟨-, -, settled⟩ | ⟨beyond, untouched⟩
  · rw [settled]
    exact ⟨m, h, rfl⟩
  · rw [untouched] at reportable
    exact absurd unplaced (beyond reportable)

theorem Fault.IsOfSource.place?_eq {fault : Fault} (h : fault.IsOfSource) :
    fault.place? = none := by
  obtain ⟨cause, rfl⟩ | ⟨cause, rfl, -⟩ := h
  · rfl
  · rfl

/-- What cannot be parsed is blamed on the mark in which it stands. -/
theorem Mark.atMark_blamed {α : Type} {m : Mark} (h : m.StandsIn source) {x : Except Fault α}
    (ofSource : Meets (fun _ => True) Failure.IsOfSource (atMark m x)) :
    Meets (fun _ => True) (Failure.BlamedIn source) (atMark m x) := by
  cases x with
  | ok a => exact .ok trivial
  | error fault =>
    have cause := (ofSource.of_error rfl).fault
    rw [Failure.fault_blame] at cause
    exact .error (m.blame_blamedIn h cause.place?_eq)

namespace Assembly

variable {a : Assembly} {cs : List Chunk}

/-- A chunk that is not taken in is blamed itself. -/
theorem Takes.blamed {c : Chunk} {x : Except Failure Assembly} (h : a.Takes c x)
    (stands : ∀ m, c.mark? = some m → m.StandsIn source) :
    Meets (fun _ => True) (Failure.BlamedIn source) x := by
  have goes {α : Type} {y : Except Failure α} {f : α → Assembly}
      (parsed : Meets (fun _ => True) (Failure.BlamedIn source) y) :
      Meets (fun _ => True) (Failure.BlamedIn source) (y >>= fun v => pure (f v)) :=
    parsed.bind fun _ _ => .ok trivial
  cases h with
  | @output m | @branch m | @choice m | @elsif m =>
    exact goes (Mark.atMark_blamed (stands m rfl) m.expression_meets)
  | @assign m | @cycle m | @loop m | @table m | @when m =>
    exact goes (Mark.atMark_blamed (stands m rfl) (m.selected_meets _ _))
  | text | signal | otherwise | close => exact .ok trivial
  | @refused name m => exact .error (m.blame_blamedIn (stands m rfl) rfl)

theorem pass_blamed (stands : ∀ c ∈ cs, ∀ m, c.mark? = some m → m.StandsIn source) :
    Meets (fun _ => True) (Failure.BlamedIn source) (a.pass cs) := by
  induction cs generalizing a with
  | nil => exact .ok trivial
  | cons c cs ih =>
    obtain ⟨first, rest⟩ := List.forall_mem_cons.1 stands
    rw [pass_cons]
    exact ((a.takes c).blamed first).bind fun _ _ => ih rest

end Assembly

/-- The blocks that are open have begun with marks of the chunks. -/
theorem openBlocks_standsIn {cs : List Chunk}
    (stands : ∀ c ∈ cs, ∀ m, c.mark? = some m → m.StandsIn source) :
    ∀ b ∈ openBlocks cs, ∃ m : Mark, m.StandsIn source ∧ b.2 = m.place := by
  -- from the last chunk: it opens a block, closes one or does neither
  induction cs using List.reverseRecOn with
  | nil => exact nofun
  | append_singleton cs c ih =>
    obtain ⟨front, last⟩ := List.forall_mem_append.1 stands
    have before := ih front
    have one : openBlocks (cs ++ [c]) = c.openBlocks (openBlocks cs) := List.foldl_append
    rw [one]
    cases c with
    | text | output => exact before
    | tag name m =>
      simp only [Chunk.openBlocks]
      by_cases opens : name ∈ openingTags
      · have here := last (.tag name m) (List.mem_singleton_self _) m rfl
        rw [if_pos opens]
        exact List.forall_mem_cons.2 ⟨⟨m, here, rfl⟩, before⟩
      · rw [if_neg opens]
        split
        · exact fun b hb => before b (List.mem_of_mem_tail hb)
        · exact before

theorem compileChunks_blamed {cs : List Chunk}
    (stands : ∀ c ∈ cs, ∀ m, c.mark? = some m → m.StandsIn source) :
    Meets (fun _ => True) (Failure.BlamedIn source) (compileChunks cs) := by
  show Meets _ _ (Assembly.pass ⟨[], []⟩ cs >>= Assembly.finish)
  cases ended : Assembly.pass ⟨[], []⟩ cs with
  | error f => exact .error ((Assembly.pass_blamed stands).of_error ended)
  | ok a =>
    rw [ok_bind, Assembly.finish]
    cases opened : a.opened with
    | nil => exact .ok trivial
    | cons o outer =>
      -- the innermost block that is left open
      have member : (o.tag, o.place) ∈ openBlocks cs := by
        rw [← Assembly.around_of_pass ended, Assembly.around, opened]
        exact List.mem_cons_self
      obtain ⟨m, stood, same⟩ := openBlocks_standsIn stands _ member
      have place : o.place = m.place := same
      simp only [place]
      exact .error (m.blame_blamedIn stood rfl)

theorem Template.compile_blamed (source : String) :
    Meets (fun _ => True) (Failure.BlamedIn source) (Template.compile source) := by
  rw [Template.compile]
  cases scanned : Chunk.scan source with
  | error f =>
    obtain ⟨m, stood, place⟩ := Chunk.exists_standsIn_of_scan scanned
    exact .error fun _ => ⟨m, stood, place⟩
  | ok chunks =>
    have compiled : Meets (fun _ => True) (Failure.BlamedIn source) (compileChunks chunks) :=
      compileChunks_blamed fun c member m marked => Chunk.standsIn_of_scan scanned member marked
    rw [ok_bind]
    exact compiled.bind fun _ _ => .ok trivial

/-! ## Section 2: Rendering -/

/-- What is promised about any rendering with the standard filters: they
    name no places. -/
def Terms.placeless : Terms :=
  ⟨False, fun _ => False, False, fun _ => True, nofun⟩

theorem Terms.Allows.place?_eq {f : Failure} (h : Terms.placeless.Allows f) :
    f.fault.place? = none := by
  obtain (ordinary | ⟨name, undefined⟩ | own) | ⟨-, cause, stray⟩ := h.fault
  · cases fault : f.fault with
    | custom =>
      rw [fault] at ordinary
      exact ordinary.elim
    | _ => rfl
  · rw [undefined]
    rfl
  · exact own.elim
  · rw [stray]
    rfl

/-- The state in which a rendering with these bindings begins. -/
def Engine.begin (engine : Engine) (bindings : Bindings) : Run :=
  ⟨.ofBindings bindings, #[], #[], engine.moment⟩

/-- What fails while a template is rendered is blamed on an output or tag. -/
theorem Template.renderAll_blamed {settings : Settings} {t : Template}
    (compiled : Template.compile source = .ok t) {bindings : Bindings} {f : Failure} {after : Run}
    (failed : Node.renderAll (.standard settings) t.nodes
      (Engine.begin (.standard settings) bindings) = .error f after) : f.BlamedIn source := by
  intro reportable
  -- no fault of a template names a place by itself, so each is blamed on a mark
  have placeless : Terms.placeless.Allows f := by
    have admitted : ∀ n ∈ t.nodes, Node.Every Terms.placeless.Admits false n := by
      intro n hn
      have placed := (Template.compile_meets source).of_ok compiled n hn
      exact (placed false).mono fun inLoop m here => ⟨fun _ _ => trivial, False.elim⟩
    have yields : (Filter.standard settings.strictFilters).Yields Terms.placeless.sound
      Terms.placeless.own := Filter.standard_yields settings.strictFilters
    have keeps : Render.Keeps Terms.placeless [false] (Terms.placeless.Hands false)
      (Node.renderAll (.standard settings) t.nodes) :=
        Node.renderAll_keeps yields t.nodes nofun admitted
    have kept := keeps (Engine.begin (.standard settings) bindings)
      (Scope.tidy_ofBindings False.elim)
    rw [failed] at kept
    exact kept.1
  obtain ⟨ts, scanned, built⟩ := Template.exists_pieces compiled
  have outcome : Run.Matched _ _ (Piece.renderAll (.standard settings) ts
      (Engine.begin (.standard settings) bindings)) := renderAll_matches ts built _
  rw [failed] at outcome
  generalize Piece.renderAll _ ts _ = written at outcome
  cases outcome with
  | error _ located =>
    obtain ⟨m, first, site, -, blamed⟩ :=
      located.exists_site.2 reportable placeless.place?_eq
    obtain ⟨c, member, marked⟩ := (allSites_stand ts _ site).first
    exact ⟨first, Chunk.standsIn_of_scan scanned member marked, blamed⟩

end

/-! ## Section 3: Reports -/

/-- Does a signal get to the end of the template, past all loops? -/
def Engine.Strays (engine : Engine) (source : String) (bindings : Bindings) : Prop :=
  ∃ t signal after, Template.compile source = .ok t ∧
    Node.renderAll engine t.nodes (engine.begin bindings) = .ok signal after ∧ signal ≠ .none

/-- A report starts with the sort of the fault, and names the place that is
    blamed. -/
theorem Report.failure_of_ofFailure {source : String} {f : Failure} {report : Report}
    (h : Report.ofFailure source f = .ok report) :
    ∃ rest, report = .failure (f.fault.heading ++ ": " ++ rest) f.place := by
  unfold Report.ofFailure at h
  cases blamed : f.place with
  | none =>
    rw [blamed] at h
    cases h
    exact ⟨_, rfl⟩
  | some p =>
    rw [blamed] at h
    simp only at h
    split at h
    · cases h
      exact ⟨_, rfl⟩
    · obtain ⟨text, -, rfl⟩ := eq_ok_of_bind_pure h
      refine ⟨f.fault.message ++ "\n" ++ text, ?_⟩
      simp only [String.append_assoc]

theorem Engine.place_of_conclude {engine : Engine} {source message : String} {log : List String}
    {f : Failure} {place : Option Place}
    (h : (engine.conclude source log f).report = .ok (.failure message place)) :
    f.fault.reportable = true ∧ place = f.place := by
  unfold Engine.conclude at h
  split at h
  next reportable =>
    refine ⟨reportable, ?_⟩
    cases made : Report.ofFailure source f with
    | error cause =>
      simp only [made] at h
      cases h
    | ok report =>
      obtain ⟨text, rfl⟩ := Report.failure_of_ofFailure made
      simp only [made] at h
      cases h
      rfl
  next => cases h

/-- What can be reported at a numbered place is reported there. -/
theorem Engine.exists_conclude {engine : Engine} {source : String} {log : List String} {f : Failure}
    (reportable : f.fault.reportable = true) (numbered : ∀ p, f.place = some p → p.IsNumbered) :
    ∃ message, (engine.conclude source log f).report = .ok (.failure message f.place) := by
  unfold Engine.conclude
  rw [if_pos reportable]
  have made := Report.ofFailure_meets source numbered
  cases shown : Report.ofFailure source f with
  | error cause => exact (made.of_error shown).elim
  | ok report =>
    obtain ⟨rest, rfl⟩ := Report.failure_of_ofFailure shown
    exact ⟨_, rfl⟩

theorem Engine.handle_of_error {engine : Engine} {source : String} {bindings : Bindings}
    {t : Template} {f : Failure} (compiled : Template.compile source = .ok t)
    (rendered : (t.renderIn engine (.ofBindings bindings)).result = .error f) :
    ∃ log, engine.handle source bindings = engine.conclude source log f := by
  unfold Engine.handle
  rw [compiled]
  simp only [rendered]
  exact ⟨_, rfl⟩

/-- A rendering fails with what its nodes fail with. -/
theorem Template.renderIn_of_error {engine : Engine} {t : Template} {bindings : Bindings}
    {f : Failure} {after : Run}
    (ended : Node.renderAll engine t.nodes (engine.begin bindings) = .error f after) :
    (t.renderIn engine (.ofBindings bindings)).result = .error f := by
  unfold Engine.begin at ended
  unfold Template.renderIn Template.render
  rw [Render.bind_of_error ended]

/-- A rendering fails where its nodes do, or for a signal at its end. -/
theorem Template.renderIn_cases {engine : Engine} {t : Template} {bindings : Bindings} {f : Failure}
    (failed : (t.renderIn engine (.ofBindings bindings)).result = .error f) :
    (∃ after, Node.renderAll engine t.nodes (engine.begin bindings) = .error f after) ∨
      ∃ signal after, Node.renderAll engine t.nodes (engine.begin bindings) = .ok signal after ∧
        signal ≠ .none ∧ f = (Fault.stray (.signal signal)).failure := by
  cases ended : Node.renderAll engine t.nodes (engine.begin bindings) with
  | error g after =>
    rw [Template.renderIn_of_error ended] at failed
    cases failed
    exact .inl ⟨after, rfl⟩
  | ok signal after =>
    unfold Engine.begin at ended
    unfold Template.renderIn Template.render at failed
    rw [Render.bind_of_ok ended] at failed
    by_cases none : signal = .none
    · rw [if_pos none] at failed
      cases failed
    · rw [if_neg none] at failed
      cases failed
      exact .inr ⟨signal, after, rfl, none, rfl⟩

/-- A report of a failure points at an output or tag, or at nothing for a
    signal that strays. -/
theorem Engine.handle_blames {settings : Settings} {source : String} {bindings : Bindings}
    {message : String} {place : Option Place}
    (h : ((Engine.standard settings).handle source bindings).report =
      .ok (.failure message place)) :
    ((Engine.standard settings).Strays source bindings ∧ place = none) ∨
      (¬ (Engine.standard settings).Strays source bindings ∧
        ∃ m : Mark, m.StandsIn source ∧ place = some m.place) := by
  unfold Engine.handle at h
  -- a failure of the compilation, of the rendering, or a signal at the end of it
  cases compiled : Template.compile source with
  | error f =>
    rw [compiled] at h
    obtain ⟨reportable, rfl⟩ := Engine.place_of_conclude h
    refine .inr ⟨?_, (Template.compile_blamed source).of_error compiled reportable⟩
    rintro ⟨t, signal, after, ok, -⟩
    rw [compiled] at ok
    cases ok
  | ok t =>
    rw [compiled] at h
    simp only at h
    cases rendered : (t.renderIn (.standard settings) (.ofBindings bindings)).result with
    | ok output =>
      rw [rendered] at h
      cases h
    | error f =>
      rw [rendered] at h
      obtain ⟨reportable, rfl⟩ := Engine.place_of_conclude h
      rcases Template.renderIn_cases rendered with ⟨after, failed⟩ | ⟨signal, after, ended, strays, rfl⟩
      · refine .inr ⟨?_, Template.renderAll_blamed compiled failed reportable⟩
        rintro ⟨u, signal, after', ok, ended, -⟩
        rw [compiled] at ok
        cases ok
        rw [failed] at ended
        cases ended
      · exact .inl ⟨⟨t, signal, after, compiled, ended, strays⟩, rfl⟩

/-- Every report of a failure points at an output or tag of the source: the
    source, from the line and column on, begins with the text, which is a
    whole output or tag.  Only where a signal gets past all loops does it
    point at nothing. -/
theorem Engine.handle_points (settings : Settings) (source : String) (bindings : Bindings)
    {message : String} {place : Option Place}
    (h : ((Engine.standard settings).handle source bindings).report =
      .ok (.failure message place)) :
    (place = none ↔ (Engine.standard settings).Strays source bindings) ∧
      ∀ p, place = some p → ∃ (m : Mark) (before after : List Char), p = m.place ∧
        source.toList = before ++ (m.chars ++ after) ∧ m.position = .behind before ∧
        m.StandsIn source := by
  rcases Engine.handle_blames h with ⟨strays, rfl⟩ | ⟨settled, m, stands, rfl⟩
  · exact ⟨⟨fun _ => strays, fun _ => rfl⟩, nofun⟩
  · refine ⟨⟨nofun, fun strays => absurd strays settled⟩, ?_⟩
    intro p here
    cases here
    obtain ⟨before, after, split, position⟩ := stands.split
    exact ⟨m, before, after, rfl, split, position, stands⟩

/-- A filter in a clause: the tag that opens the block is pointed at. -/
theorem handle_clauseSource : ∃ message,
    ((Engine.standard .standard).handle clauseSource []).report =
      .ok (.failure message (some clauseOpener.place)) := by
  obtain ⟨log, handled⟩ := Engine.handle_of_error compile_clauseSource
    (Template.renderIn_of_error renderAll_clauseTemplate)
  rw [handled]
  apply Engine.exists_conclude rfl
  intro p here
  cases here
  exact clauseOpener.place_isNumbered

theorem clauseSource_points : ∃ message place,
    ((Engine.standard .standard).handle clauseSource []).report = .ok (.failure message place) ∧
      (place = none ↔ (Engine.standard .standard).Strays clauseSource []) ∧
      ∀ p, place = some p → ∃ (m : Mark) (before after : List Char), p = m.place ∧
        clauseSource.toList = before ++ (m.chars ++ after) ∧ m.position = .behind before ∧
        m.StandsIn clauseSource := by
  obtain ⟨message, handled⟩ := handle_clauseSource
  exact ⟨message, _, handled, Engine.handle_points .standard clauseSource [] handled⟩

end Stencil
