import Stencil.Proofs.Statement.Parse
import Stencil.Proofs.Template.Contained
import Stencil.Proofs.Template.Derivation

/-! # Where signals come from and where they go

    A sequence of nodes hands on a signal if and only if the rendering
    comes to a node that gives it, through bodies of conditionals and of
    loops without items only.  The rendering of the whole sequence then ends
    with that node: nothing behind it is rendered, on any level.  Loops that
    complete hand on nothing, so what gets out is no loop's. -/

namespace Stencil

/-! ## Section 1: Steps that complete -/

namespace Render

variable {α β : Type}

theorem bind_eq_ok {x : Render α} {f : α → Render β} {run done : Run} {b : β} :
    (x >>= f) run = .ok b done ↔ ∃ a mid, x run = .ok a mid ∧ f a mid = .ok b done := by
  show EStateM.bind x f run = .ok b done ↔ _
  unfold EStateM.bind
  cases x run with
  | ok a mid =>
    constructor
    · exact fun h => ⟨a, mid, rfl, h⟩
    · rintro ⟨a, mid, same, h⟩
      cases same
      exact h
  | error f mid =>
    constructor
    · exact nofun
    · rintro ⟨a, mid, same, -⟩
      cases same

theorem pure_eq_ok {a b : α} {run done : Run} :
    (pure a : Render α) run = .ok b done ↔ a = b ∧ run = done := by
  constructor
  · intro h
    cases (h : EStateM.Result.ok a run = .ok b done)
    exact ⟨rfl, rfl⟩
  · rintro ⟨rfl, rfl⟩
    rfl

theorem blaming_eq_ok {place : Place} {x : Render α} {run done : Run} {a : α} :
    blaming place x run = .ok a done ↔ x run = .ok a done := by
  unfold blaming
  cases x run with
  | ok b mid => exact Iff.rfl
  | error f mid => exact ⟨nofun, nofun⟩

/-- A step that ends with no signal, whatever comes first. -/
theorem signal_eq_none {x : Render α} {run done : Run} {s : Signal}
    (h : (x >>= fun _ => pure Signal.none) run = .ok s done) : s = .none := by
  obtain ⟨_, _, _, last⟩ := bind_eq_ok.1 h
  exact (pure_eq_ok.1 last).1.symm

end Render

theorem Node.blamingOption_eq_ok {α : Type} {place : Option Place} {x : Render α}
    {run done : Run} {a : α} :
    blamingOption place x run = .ok a done ↔ x run = .ok a done := by
  cases place with
  | none => exact Iff.rfl
  | some p => exact Render.blaming_eq_ok

/-! ## Section 2: Bodies that are entered -/

/-- The next moment of a rendering. -/
def Run.next (run : Run) : Run :=
  { run with moment := run.moment + 1 }

namespace Node

/-- The body whose condition is the first to hold. -/
def takenBranch (engine : Engine) (alternative : Option (List Node)) :
    Bool → List (Expr × List Node) → Render (Option (List Node))
  | _, [] => pure alternative
  | negated, (condition, body) :: rest => do
    let v ← Render.eval engine condition
    let truth ← Render.lift v.truth
    if truth != negated then return some body else takenBranch engine alternative false rest

/-- The first body that has an alternative equal to the subject. -/
def takenClause (engine : Engine) (alternative : Option (List Node)) (subject : Value) :
    List (List Expr × List Node) → Render (Option (List Node))
  | [] => pure alternative
  | (alternatives, body) :: rest => do
    if ← anyEqual engine subject alternatives then return some body
    else takenClause engine alternative subject rest

/-- A node other than a loop with items comes to a body of its own: `mid`
    is what the rendering has changed before. -/
inductive Enters (engine : Engine) : Node → Run → List Node → Run → Prop
  | branch {negated : Bool} {branches : List (Expr × List Node)}
      {alternative : Option (List Node)} {place : Place} {run mid : Run} {body : List Node} :
      takenBranch engine alternative negated branches run = .ok (some body) mid →
      Enters engine (.branch negated branches alternative place) run body mid
  | choice {subject : Expr} {clauses : List (List Expr × List Node)}
      {alternative : Option (List Node)} {place : Place} {run mid : Run} {body : List Node} :
      (Render.eval engine subject >>= fun v => takenClause engine alternative v clauses) run =
        .ok (some body) mid →
      Enters engine (.choice subject clauses alternative place) run body mid
  | empty {h : LoopHeader} {items body : List Node} {place : Place} {run mid : Run} :
      forValues engine h run = .ok [] mid →
      Enters engine (.loop h items (some body) place) run body mid

/-- The rendering of a sequence comes to a node that gives the signal, and
    ends there. -/
inductive Gives (engine : Engine) : List Node → Run → Signal → Run → Prop
  | here {s : Signal} {place : Place} {later : List Node} {run : Run} :
      Gives engine (.signal s place :: later) run s run.next
  | later {n : Node} {ns : List Node} {run mid done : Run} {s : Signal} :
      render engine n run.next = .ok .none mid → Gives engine ns mid s done →
      Gives engine (n :: ns) run s done
  | inside {n : Node} {ns body : List Node} {run mid done : Run} {s : Signal} :
      Enters engine n run.next body mid → Gives engine body mid s done →
      Gives engine (n :: ns) run s done

variable {engine : Engine}

theorem renderBranches_eq (alternative : Option (List Node)) (negated : Bool)
    (branches : List (Expr × List Node)) :
    renderBranches engine negated (renderOption engine alternative) branches =
      takenBranch engine alternative negated branches >>= renderOption engine := by
  induction branches generalizing negated with
  | nil => rw [renderBranches, takenBranch, pure_bind]
  | cons branch rest ih =>
    obtain ⟨condition, body⟩ := branch
    rw [renderBranches, takenBranch, bind_assoc]
    congr
    funext v
    rw [bind_assoc]
    congr
    funext truth
    split
    · rw [pure_bind, renderOption]
    · exact ih false

theorem renderClauses_eq (alternative : Option (List Node)) (subject : Value)
    (clauses : List (List Expr × List Node)) :
    renderClauses engine subject (renderOption engine alternative) clauses =
      takenClause engine alternative subject clauses >>= renderOption engine := by
  induction clauses with
  | nil => rw [renderClauses, takenClause, pure_bind]
  | cons clause rest ih =>
    obtain ⟨alternatives, body⟩ := clause
    rw [renderClauses, takenClause, bind_assoc]
    congr
    funext equal
    split
    · rw [pure_bind, renderOption]
    · exact ih

/-- A body that is there or not hands on a signal only if it is there. -/
theorem renderOption_signal {alternative : Option (List Node)} {run done : Run} {s : Signal}
    (hs : s ≠ .none) :
    renderOption engine alternative run = .ok s done ↔
      ∃ body, alternative = some body ∧ renderAll engine body run = .ok s done := by
  cases alternative with
  | none =>
    rw [renderOption, Render.pure_eq_ok]
    constructor
    · exact fun h => absurd h.1.symm hs
    · rintro ⟨body, absent, -⟩
      cases absent
  | some body => simp [renderOption]

/-- So does a body that is chosen first. -/
theorem chosen_signal {choose : Render (Option (List Node))} {run done : Run} {s : Signal}
    (hs : s ≠ .none) :
    (choose >>= renderOption engine) run = .ok s done ↔
      ∃ body mid, choose run = .ok (some body) mid ∧ renderAll engine body mid = .ok s done := by
  rw [Render.bind_eq_ok]
  constructor
  · rintro ⟨chosen, mid, taken, rest⟩
    obtain ⟨body, rfl, rest⟩ := (renderOption_signal hs).1 rest
    exact ⟨body, mid, taken, rest⟩
  · rintro ⟨body, mid, taken, rest⟩
    exact ⟨some body, mid, taken, (renderOption_signal hs).2 ⟨body, rfl, rest⟩⟩

/-! ## Section 3: One node -/

/-- A loop that completes hands on no signal, if it has items. -/
theorem runFor_signal {h : LoopHeader} {body : Render Signal} {alternative : Option (List Node)}
    {run done : Run} {s : Signal} (hs : s ≠ .none) :
    runFor engine h body (some (renderOption engine alternative)) run = .ok s done ↔
      ∃ mid, forValues engine h run = .ok [] mid ∧
        renderOption engine alternative mid = .ok s done := by
  unfold runFor
  rw [Render.bind_eq_ok]
  constructor
  · rintro ⟨vs, mid, values, rest⟩
    cases vs with
    | nil => exact ⟨mid, values, rest⟩
    | cons v vs => exact absurd (Render.signal_eq_none rest) hs
  · rintro ⟨mid, values, rest⟩
    exact ⟨[], mid, values, rest⟩

theorem runTable_signal {h : LoopHeader} {body : Render Signal} {run done : Run} {s : Signal}
    (completes : runTable engine h body run = .ok s done) : s = .none := by
  unfold runTable at completes
  obtain ⟨_, _, _, completes⟩ := Render.bind_eq_ok.1 completes
  obtain ⟨_, _, _, completes⟩ := Render.bind_eq_ok.1 completes
  obtain ⟨_, _, _, completes⟩ := Render.bind_eq_ok.1 completes
  obtain ⟨vs, _, _, completes⟩ := Render.bind_eq_ok.1 completes
  obtain ⟨_, _, _, completes⟩ := Render.bind_eq_ok.1 completes
  obtain ⟨_, _, _, completes⟩ := Render.bind_eq_ok.1 completes
  cases vs with
  | nil => exact (Render.pure_eq_ok.1 completes).1.symm
  | cons v vs =>
    obtain ⟨_, _, _, completes⟩ := Render.bind_eq_ok.1 completes
    exact Render.signal_eq_none completes

/-- A node that neither is a signal nor enters a body hands on nothing. -/
theorem render_signal_of_plain {n : Node} {run done : Run} {s : Signal}
    (notSignal : ∀ place, n ≠ .signal s place)
    (noBody : ∀ body mid, ¬ Enters engine n run body mid)
    (silent : render engine n run ≠ .ok s done) :
    render engine n run = .ok s done ↔
      (∃ place, n = .signal s place ∧ run = done) ∨
        ∃ body mid, Enters engine n run body mid ∧ renderAll engine body mid = .ok s done := by
  refine ⟨fun h => absurd h silent, ?_⟩
  rintro (⟨place, same, -⟩ | ⟨body, mid, enters, -⟩)
  · exact absurd same (notSignal place)
  · exact absurd enters (noBody body mid)

/-- A node gives a signal itself, or hands on that of the body that it
    enters. -/
theorem render_signal {n : Node} {run done : Run} {s : Signal} (hs : s ≠ .none) :
    render engine n run = .ok s done ↔
      (∃ place, n = .signal s place ∧ run = done) ∨
        ∃ body mid, Enters engine n run body mid ∧ renderAll engine body mid = .ok s done := by
  cases n with
  -- first the nodes that never give a signal; a table keeps those of its body to itself
  | text t =>
    refine render_signal_of_plain nofun nofun fun h => ?_
    rw [render] at h
    exact hs (Render.signal_eq_none h)
  | output e place =>
    refine render_signal_of_plain nofun nofun fun h => ?_
    rw [render] at h
    obtain ⟨_, _, _, h⟩ := Render.bind_eq_ok.1 h
    obtain ⟨_, _, _, h⟩ := Render.bind_eq_ok.1 h
    exact hs (Render.signal_eq_none h)
  | assign name e place =>
    refine render_signal_of_plain nofun nofun fun h => ?_
    rw [render] at h
    obtain ⟨_, _, _, h⟩ := Render.bind_eq_ok.1 h
    exact hs (Render.signal_eq_none h)
  | cycle c place =>
    refine render_signal_of_plain nofun nofun fun h => ?_
    rw [render] at h
    obtain ⟨_, _, _, h⟩ := Render.bind_eq_ok.1 h
    exact hs (Render.signal_eq_none h)
  | table h body place =>
    refine render_signal_of_plain nofun nofun fun completes => ?_
    rw [render] at completes
    exact hs (runTable_signal completes)
  | signal t place =>
    rw [render, Render.pure_eq_ok]
    constructor
    · rintro ⟨rfl, same⟩
      exact .inl ⟨place, rfl, same⟩
    · rintro (⟨_, same, ended⟩ | ⟨_, _, enters, -⟩)
      · cases same
        exact ⟨rfl, ended⟩
      · cases enters
  | loop h body alternative place =>
    rw [render, runFor_signal hs]
    constructor
    · rintro ⟨mid, values, rest⟩
      obtain ⟨taken, rfl, rest⟩ := (renderOption_signal hs).1 rest
      exact .inr ⟨taken, mid, .empty values, rest⟩
    · rintro (⟨_, same, -⟩ | ⟨taken, mid, enters, rest⟩)
      · cases same
      · cases enters with
        | empty values => exact ⟨mid, values, (renderOption_signal hs).2 ⟨taken, rfl, rest⟩⟩
  | branch negated branches alternative place =>
    rw [render, renderBranches_eq, chosen_signal hs]
    constructor
    · rintro ⟨body, mid, taken, rest⟩
      exact .inr ⟨body, mid, .branch taken, rest⟩
    · rintro (⟨_, same, -⟩ | ⟨body, mid, enters, rest⟩)
      · cases same
      · cases enters with
        | branch taken => exact ⟨body, mid, taken, rest⟩
  | choice subject clauses alternative place =>
    -- like branches, with the subject evaluated in front
    have choosing : render engine (.choice subject clauses alternative place) =
        (Render.eval engine subject >>= fun v => takenClause engine alternative v clauses) >>=
          renderOption engine := by
      rw [render, bind_assoc]
      congr
      funext v
      exact renderClauses_eq alternative v clauses
    rw [choosing, chosen_signal hs]
    constructor
    · rintro ⟨body, mid, taken, rest⟩
      exact .inr ⟨body, mid, .choice taken, rest⟩
    · rintro (⟨_, same, -⟩ | ⟨body, mid, enters, rest⟩)
      · cases same
      · cases enters with
        | choice taken => exact ⟨body, mid, taken, rest⟩

/-! ## Section 4: Sequences of nodes -/

theorem mem_of_takenBranch {alternative : Option (List Node)} {branches : List (Expr × List Node)}
    {negated : Bool} {run mid : Run} {body : List Node}
    (taken : takenBranch engine alternative negated branches run = .ok (some body) mid) :
    alternative = some body ∨ ∃ b ∈ branches, b.2 = body := by
  induction branches generalizing negated run with
  | nil => exact .inl (Render.pure_eq_ok.1 taken).1
  | cons branch rest ih =>
    obtain ⟨condition, here⟩ := branch
    rw [takenBranch] at taken
    obtain ⟨_, _, _, taken⟩ := Render.bind_eq_ok.1 taken
    obtain ⟨_, _, _, taken⟩ := Render.bind_eq_ok.1 taken
    split at taken
    · have same := Option.some.inj (Render.pure_eq_ok.1 taken).1
      exact .inr ⟨_, List.mem_cons_self, same⟩
    · obtain absent | ⟨b, hb, same⟩ := ih taken
      · exact .inl absent
      · exact .inr ⟨b, List.mem_cons_of_mem _ hb, same⟩

theorem mem_of_takenClause {alternative : Option (List Node)} {subject : Value}
    {clauses : List (List Expr × List Node)} {run mid : Run} {body : List Node}
    (taken : takenClause engine alternative subject clauses run = .ok (some body) mid) :
    alternative = some body ∨ ∃ c ∈ clauses, c.2 = body := by
  induction clauses generalizing run with
  | nil => exact .inl (Render.pure_eq_ok.1 taken).1
  | cons clause rest ih =>
    obtain ⟨alternatives, here⟩ := clause
    rw [takenClause] at taken
    obtain ⟨_, _, _, taken⟩ := Render.bind_eq_ok.1 taken
    split at taken
    · have same := Option.some.inj (Render.pure_eq_ok.1 taken).1
      exact .inr ⟨_, List.mem_cons_self, same⟩
    · obtain absent | ⟨c, hc, same⟩ := ih taken
      · exact .inl absent
      · exact .inr ⟨c, List.mem_cons_of_mem _ hc, same⟩

theorem sizeOf_body_lt {α : Type} [SizeOf α] {bodies : List (α × List Node)}
    {b : α × List Node} (h : b ∈ bodies) : sizeOf b.2 < sizeOf bodies := by
  have := List.sizeOf_lt_of_mem h
  obtain ⟨a, body⟩ := b
  simp only [Prod.mk.sizeOf_spec] at this ⊢
  omega

/-- A body is smaller than the node that enters it. -/
theorem Enters.sizeOf_lt {n : Node} {run mid : Run} {body : List Node}
    (h : Enters engine n run body mid) : sizeOf body < sizeOf n := by
  -- the body is a part of the node, or empty
  cases h with
  | branch taken =>
    obtain rfl | ⟨b, hb, rfl⟩ := mem_of_takenBranch taken
    · simp
      omega
    · have := sizeOf_body_lt hb
      simp
      omega
  | choice taken =>
    obtain ⟨_, _, _, taken⟩ := Render.bind_eq_ok.1 taken
    obtain rfl | ⟨c, hc, rfl⟩ := mem_of_takenClause taken
    · simp
      omega
    · have := sizeOf_body_lt hc
      simp
      omega
  | empty _ =>
    simp
    omega

theorem renderAll_cons_signal {n : Node} {ns : List Node} {run done : Run} {s : Signal} :
    renderAll engine (n :: ns) run = .ok s done ↔
      ∃ given mid, render engine n run.next = .ok given mid ∧
        (if given = .none then renderAll engine ns mid = .ok s done
          else given = s ∧ mid = done) := by
  -- a node that gives a signal is the last one that is rendered
  rw [renderAll, Render.bind_eq_ok]
  constructor
  · rintro ⟨_, next, ticked, rest⟩
    cases ticked
    obtain ⟨given, mid, rendered, rest⟩ := Render.bind_eq_ok.1 rest
    refine ⟨given, mid, blamingOption_eq_ok.1 rendered, ?_⟩
    split at rest
    next silent => rwa [if_pos silent]
    next loud =>
      rw [if_neg loud]
      exact Render.pure_eq_ok.1 rest
  · rintro ⟨given, mid, rendered, rest⟩
    refine ⟨(), run.next, rfl, Render.bind_eq_ok.2 ⟨given, mid, ?_, ?_⟩⟩
    · exact blamingOption_eq_ok.2 rendered
    · split at rest
      next silent => rwa [if_pos silent]
      next loud =>
        rw [if_neg loud]
        exact Render.pure_eq_ok.2 rest

theorem Gives.renderAll_eq {ns : List Node} {run done : Run} {s : Signal} (hs : s ≠ .none)
    (h : Gives engine ns run s done) : renderAll engine ns run = .ok s done := by
  induction h with
  | @here s place later run =>
    refine renderAll_cons_signal.2 ⟨s, run.next, ?_, ?_⟩
    · rw [render]
      rfl
    · rw [if_neg hs]
      exact ⟨rfl, rfl⟩
  | later silent _ ih =>
    refine renderAll_cons_signal.2 ⟨.none, _, silent, ?_⟩
    rw [if_pos rfl]
    exact ih hs
  | inside enters _ ih =>
    refine renderAll_cons_signal.2 ⟨_, _, (render_signal hs).2 (.inr ⟨_, _, enters, ih hs⟩), ?_⟩
    rw [if_neg hs]
    exact ⟨rfl, rfl⟩

/-- A sequence that ends with a signal came to a node that gives it.  The
    induction is on the size of the sequence, as the body that is entered
    may lie deep in the first node. -/
theorem gives_of_renderAll {s : Signal} (hs : s ≠ .none) : (ns : List Node) → {run done : Run} →
    renderAll engine ns run = .ok s done → Gives engine ns run s done
  | [], run, done, h => by
    rw [renderAll, Render.pure_eq_ok] at h
    exact absurd h.1.symm hs
  | n :: ns, run, done, h => by
    obtain ⟨given, mid, rendered, rest⟩ := renderAll_cons_signal.1 h
    split at rest
    next silent =>
      subst silent
      exact .later rendered (gives_of_renderAll hs ns rest)
    next loud =>
      obtain ⟨rfl, rfl⟩ := rest
      obtain ⟨place, rfl, rfl⟩ | ⟨body, entered, enters, inner⟩ := (render_signal hs).1 rendered
      · exact .here
      · have smaller := enters.sizeOf_lt
        exact .inside enters (gives_of_renderAll hs body inner)
termination_by ns => sizeOf ns
decreasing_by
  · simp only [List.cons.sizeOf_spec]
    omega
  · simp only [List.cons.sizeOf_spec]
    omega

/-- Exactly the signals that the rendering comes to leave a sequence. -/
theorem renderAll_signal {ns : List Node} {run done : Run} {s : Signal} (hs : s ≠ .none) :
    renderAll engine ns run = .ok s done ↔ Gives engine ns run s done :=
  ⟨gives_of_renderAll hs ns, Gives.renderAll_eq hs⟩

end Node

/-! ## Section 5: Whole templates -/

/-- Does a filter of the registry itself raise the fault, on some operands? -/
def Registry.Raises (r : Registry) (fault : Fault) : Prop :=
  ∃ name f x args, r.find? name = some f ∧ f x args = .error fault

theorem Registry.yields_raises (r : Registry) : r.Yields False r.Raises := by
  intro name f found x args _ _
  cases result : f x args with
  | ok n => exact .ok False.elim
  | error fault => exact .error (.inr ⟨name, f, x, args, found, result⟩)

/-- In a template whose cycles and signals stand in loops, none of them is
    ever stray, whatever the filters, the settings and the bindings are. -/
theorem Template.Contained.not_stray {t : Template} (h : t.Contained) {engine : Engine}
    {bindings : Bindings} {f : Failure} {cause : Stray}
    (failed : (t.renderIn engine (.ofBindings bindings)).result = .error f)
    (stray : f.fault = .stray cause) : engine.filters.Raises (.stray cause) := by
  let q : Terms := ⟨False, engine.filters.Raises, True, fun _ => True, fun _ _ _ _ => trivial⟩
  have admitted : ∀ n ∈ t.nodes, Node.Every q.Admits false n := by
    intro n hn
    exact (h n hn).mono fun inLoop m needs => ⟨fun _ _ => trivial, fun _ => needs⟩
  have allowed : q.Allows f :=
    Template.renderIn_allows engine.filters.yields_raises admitted False.elim failed
  rcases allowed.fault with arises | ⟨outside, -⟩
  · rw [stray] at arises
    rcases arises with ordinary | ⟨name, same⟩ | raised
    · exact ordinary.elim
    · cases same
    · exact raised
  · exact absurd trivial outside

theorem Template.render_signal {engine : Engine} {t : Template} {run done : Run} {s : Signal}
    (hs : s ≠ .none) (h : Node.renderAll engine t.nodes run = .ok s done) :
    t.render engine run = .error (Fault.stray (.signal s)).failure done := by
  show EStateM.bind (Node.renderAll engine t.nodes) _ run = _
  unfold EStateM.bind
  rw [h]
  simp only [hs, if_false]
  rfl

theorem Filter.standard_not_raises (strict : Bool) (cause : Stray) :
    ¬ (standard strict).Raises (.stray cause) := by
  rintro ⟨name, f, x, args, found, raised⟩
  have yields : (standard strict).Yields False fun _ => False := standard_yields strict
  obtain ⟨_, operand, -⟩ | none :=
    (yields name f found x args False.elim False.elim).of_error raised
  · cases operand
  · exact none

/-- Loops consume signals, and only loops do.  In a contained template no
    cycle and no signal is stray, other than by a filter that raises such a
    fault itself.  A sequence ends with a signal exactly when it comes to a
    node that gives it, in bodies of conditionals and of loops without items;
    a loop with items and a table that complete hand on none; and a signal
    at the end of a template is the fault of the rendering. -/
theorem Template.signals_consumed (engine : Engine) :
    (∀ (t : Template) (bindings : Bindings) (f : Failure) (cause : Stray), t.Contained →
      (t.renderIn engine (.ofBindings bindings)).result = .error f → f.fault = .stray cause →
      engine.filters.Raises (.stray cause)) ∧
    (∀ (ns : List Node) (run done : Run) (s : Signal), s ≠ .none →
      (Node.renderAll engine ns run = .ok s done ↔ Node.Gives engine ns run s done)) ∧
    (∀ (h : LoopHeader) (body : List Node) (alternative : Option (List Node)) (place : Place)
      (run mid done : Run) (s : Signal) (v : Value) (vs : List Value),
      forValues engine h run = .ok (v :: vs) mid →
      Node.render engine (.loop h body alternative place) run = .ok s done → s = .none) ∧
    (∀ (h : LoopHeader) (body : List Node) (place : Place) (run done : Run) (s : Signal),
      Node.render engine (.table h body place) run = .ok s done → s = .none) ∧
    (∀ (t : Template) (run done : Run) (s : Signal), s ≠ .none →
      Node.renderAll engine t.nodes run = .ok s done →
      t.render engine run = .error (Fault.stray (.signal s)).failure done) := by
  refine ⟨fun t bindings f cause contained failed stray => contained.not_stray failed stray,
    fun ns run done s hs => Node.renderAll_signal hs, ?loops, ?tables,
    fun t run done s hs ended => Template.render_signal hs ended⟩
  case loops =>
    intro h body alternative place run mid done s v vs values completes
    refine Decidable.byContradiction fun hs => ?_
    rw [Node.render, Node.runFor_signal hs, values] at completes
    obtain ⟨_, same, -⟩ := completes
    cases same
  case tables =>
    intro h body place run done s completes
    rw [Node.render] at completes
    exact Node.runTable_signal completes

/-- Goes on inside a condition that always holds, in front of a text. -/
def Template.skipping : Template :=
  ⟨[.branch false [(.literal (.bool true), [.signal .next ⟨.int 1, .int 13, "continue"⟩])] none
      ⟨.int 1, .int 1, "if true"⟩, .text "skipped"], "if true, continue, skipped"⟩

/-- The same inside a loop. -/
def Template.loopSkipping : Template :=
  ⟨[.loop ⟨"i", .range (.literal (.int 1)) (.literal (.int 3)), false, none, none, none⟩
      skipping.nodes none ⟨.int 1, .int 1, "for i in (1..3)"⟩], "for, if true, continue, skipped"⟩

theorem Template.loopSkipping_contained : loopSkipping.Contained := by
  intro n hn
  rw [List.mem_singleton.1 hn]
  refine .intro nofun fun b hb m hm => ?_
  rw [List.mem_singleton.1 hb] at hm ⊢
  rcases List.mem_cons.1 hm with rfl | hm
  · refine .intro nofun fun c hc k hk => ?_
    rw [List.mem_singleton.1 hc] at hk ⊢
    rw [List.mem_singleton.1 hk]
    exact .intro (fun _ => rfl) nofun
  · rw [List.mem_singleton.1 hm]
    exact .intro nofun nofun

/-- The signal gets out of the condition past the text, and out of a
    template without a loop, but not out of one with a loop. -/
theorem Template.skipping_stray :
    (∀ run : Run, skipping.render (.standard .standard) run =
      .error (Fault.stray (.signal .next)).failure run.next.next) ∧
    ∀ f : Failure, (loopSkipping.renderIn (.standard .standard) (.ofBindings [])).result = .error f →
      ∀ cause, f.fault ≠ .stray cause := by
  obtain ⟨contained, gives, -, -, root⟩ := signals_consumed (.standard .standard)
  constructor
  · intro run
    have given : Node.Gives (.standard .standard) skipping.nodes run .next run.next.next :=
      .inside (.branch rfl) .here
    exact root skipping run _ .next nofun ((gives _ run _ .next nofun).2 given)
  · intro f failed cause stray
    have raised := contained loopSkipping [] f cause loopSkipping_contained failed stray
    exact Filter.standard_not_raises _ cause raised

/-! ### A filter that raises such a fault -/

/-- An output of what a filter gives. -/
def stopSource : String :=
  "\x7b\x7b x | stop \x7d\x7d"

/-- The mark of that output. -/
def stopMark : Mark :=
  ⟨stopSource, ⟨1, 1⟩, "x | stop", false, false⟩

/-- The template of that source. -/
def stopTemplate : Template :=
  ⟨[.output (.filter (.var "x") "stop" []) stopMark.place], stopSource⟩

open Grammar Piece Text

theorem expression_stopMark : stopMark.expression = .ok (.filter (.var "x") "stop" []) := by
  have called : Written [.operator .pipe, .identifier "stop"] " | stop".toList :=
    .blank rfl (.lexeme (Lexeme.written_pipe _)
      (.blank rfl (written_lastWord (w := "stop") (isName_ofList rfl rfl) rfl)))
  have written : (Expr.filter (.var "x") "stop" []).IsWritten "x | stop" :=
    .lexeme (Lexeme.written_word (w := "x") (isName_ofList rfl rfl) rfl _) called
  rw [Mark.expression, stopMark, Expr.parseExpression_written written]
  rfl

theorem compile_stopSource : Template.compile stopSource = .ok stopTemplate := by
  have scanned : Chunk.scan stopSource = .ok (allChunks [.output stopMark]) := rfl
  refine Template.compile_of_pieces scanned ?_
  simp only [nodes, node, expression_stopMark]
  rfl

theorem stopTemplate_contained : stopTemplate.Contained := by
  intro n hn
  rw [List.mem_singleton.1 hn]
  exact .intro nofun nofun

/-- The engine of a host with a filter that fails as a stray signal does. -/
def stopEngine : Engine :=
  { Engine.standard .standard with
    filters := (Filter.standard true).register "stop" fun _ _ => .error (.stray (.signal .stop)) }

/-- So the fault of a stray signal is not always one: in a template without
    any signal, a filter may raise it. -/
theorem Template.filter_strays :
    ¬ ∀ (engine : Engine) (source : String) (t : Template) (bindings : Bindings) (f : Failure)
      (cause : Stray), compile source = .ok t → t.Contained →
      (t.renderIn engine (.ofBindings bindings)).result = .error f → f.fault ≠ .stray cause := by
  intro always
  have failed : (stopTemplate.renderIn stopEngine (.ofBindings [])).result =
      .error ⟨.stray (.signal .stop), some stopMark.place⟩ := by rfl
  exact always stopEngine stopSource stopTemplate [] _ _ compile_stopSource stopTemplate_contained
    failed rfl

end Stencil
