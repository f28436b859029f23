import Stencil.Proofs.Loop.Table
import Stencil.Proofs.Value.Range

/-! # The limit on the items of a loop

    Every loop counts what it walks along before it does anything else.
    With more items than a positive limit allows, entering the loop fails,
    and has no effect: neither the body nor the alternative is called, and
    no output and no scope is any different.  With no more of them, the
    body is called at most once for each.  A limit that is absent or not
    positive refuses nothing. -/

namespace Stencil

/-! ## Section 1: The two sorts of loops -/

/-- A loop is plain, or fills a table. -/
inductive LoopSort where
  | plain
  | table
deriving DecidableEq

namespace LoopSort

/-- The tag of a loop. -/
def tag : LoopSort → String
  | .plain => "for"
  | .table => "tablerow"

/-- Enters a loop.  A table has no alternative. -/
def run (sort : LoopSort) (engine : Engine) (h : LoopHeader) (body : Render Signal)
    (alternative : Option (Render Signal)) : Render Signal :=
  match sort with
  | .plain => runFor engine h body alternative
  | .table => runTable engine h body

/-- What the entry of a loop comes to before its body is called: the items,
    and the number of columns. -/
def entered (sort : LoopSort) (engine : Engine) (h : LoopHeader) (start : Run) :
    Except Fault (List Value × Nat) := do
  let items ← h.checked engine sort.tag start
  match sort with
  | .plain => return (items, 0)
  | .table =>
    let given ← modifierCount (engine.filters.atMoment start.moment) start.scope.names "cols" h.cols
    return (items, columns given items.length)

/-- What a loop does with its items. -/
def rest (sort : LoopSort) (engine : Engine) (h : LoopHeader) (body : Render Signal)
    (alternative : Option (Render Signal)) (items : List Value) (cols : Nat) : Render Signal :=
  match sort with
  | .plain =>
    match items with
    | [] => alternative.getD (pure .none)
    | items => do
      Render.inFrame .loop (forItems engine h.item items.length body 0 items)
      return .none
  | .table => tableRows h body items cols

/-- What the entry comes to is known before the body or the alternative are,
    and in a state in which only the debug log is any different. -/
theorem run_enters (sort : LoopSort) (engine : Engine) (h : LoopHeader) (start : Run) :
    ∃ after, start.Logged engine after ∧
      ∀ (body : Render Signal) (alternative : Option (Render Signal)),
        sort.run engine h body alternative start =
          match sort.entered engine h start with
          | .error fault => .error fault.failure after
          | .ok (items, cols) => sort.rest engine h body alternative items cols after := by
  cases sort with
  | plain =>
    obtain ⟨after, logged, ended⟩ := forValues_computes engine h start
    refine ⟨after, logged, fun body alternative => ?_⟩
    show runFor engine h body alternative start = _
    unfold runFor entered
    show _ = match h.checked engine "for" start >>= fun items => Except.ok (items, 0) with
      | .error fault => _
      | .ok (items, cols) => _
    cases checked : h.checked engine "for" start with
    | error fault =>
      rw [checked] at ended
      exact Render.bind_of_error ended
    | ok items =>
      rw [checked] at ended
      rw [Render.bind_of_ok ended]
      cases items <;> rfl
  | table =>
    obtain ⟨after, logged, ended⟩ := tableEntry_computes engine h start
    refine ⟨after, logged, fun body alternative => ?_⟩
    show runTable engine h body start = _
    rw [runTable_eq]
    -- both spell out the same entry
    change tableEntry engine h start = Render.lift (entered .table engine h start) after at ended
    cases entry : entered .table engine h start with
    | error fault =>
      rw [entry] at ended
      exact Render.bind_of_error ended
    | ok made =>
      rw [entry] at ended
      exact Render.bind_of_ok ended

end LoopSort

/-! ## Section 2: Counting -/

/-- The number of elements that a loop walks along. -/
def Value.Source.size (s : Source) : Nat :=
  s.data.length

namespace Value.Source

/-- What can be counted is counted.  Only a range is ever too long. -/
theorem count_cases (s : Source) :
    s.count = .ok s.size ∨ (countLimit < s.size ∧ s.count = .error (.operand .lengthTooLarge)) := by
  cases s with
  | items ns => exact .inl rfl
  | range r =>
    have size : (range r).size = r.length := by
      rw [Source.size, data, List.length_map, Progression.length_members]
    rw [size]
    by_cases counted : r.length ≤ countLimit
    · exact .inl (Progression.count_eq counted)
    · exact .inr ⟨Nat.not_le.1 counted, Progression.count_eq_error counted⟩

/-- Wrapping keeps the number. -/
theorem length_values {s : Source} {vs : List Value} (wrapped : s.values = .ok vs) :
    vs.length = s.size := by
  cases s with
  | items ns => exact (wrapAll_eq_ok_iff.1 wrapped).length_eq.symm
  | range r =>
    obtain rfl := Except.ok.inj wrapped
    rw [Source.size, data, List.length_map, List.length_map]

end Value.Source

/-- Is the fault that of a loop with too many items? -/
def Fault.IsLimit (f : Fault) : Prop :=
  ∃ tag, f = .evaluation (.limitExceeded tag)

theorem Native.not_isLimit_of_wrap {n : Native} {fault : Fault} (failed : n.wrap = .error fault) :
    ¬ fault.IsLimit := by
  rintro ⟨tag, rfl⟩
  cases n with
  | loop p =>
    rw [wrap] at failed
    obtain ⟨cause, -, same⟩ := eq_error_of_mapError failed
    cases same
  | _ => cases failed

theorem Value.not_isLimit_of_wrapAll {ns : List Native} {fault : Fault}
    (failed : wrapAll ns = .error fault) : ¬ fault.IsLimit := by
  induction ns with
  | nil => cases failed
  | cons n ns ih =>
    rw [wrapAll] at failed
    rcases eq_error_of_bind failed with first | ⟨v, -, later⟩
    · exact n.not_isLimit_of_wrap first
    · exact ih (eq_error_of_bind_pure later)

theorem Value.Source.not_isLimit_of_values {s : Source} {fault : Fault}
    (failed : s.values = .error fault) : ¬ fault.IsLimit := by
  cases s with
  | items ns => exact not_isLimit_of_wrapAll failed
  | range r => cases failed

theorem Value.not_isLimit_of_source {v : Value} {fault : Fault} (failed : v.source = .error fault) :
    ¬ fault.IsLimit := by
  cases v with
  | mapping entries => exact not_isLimit_of_wrapAll (eq_error_of_bind_pure failed)
  | _ => cases failed

section

variable {filters : Registry} {names : Names} {fault : Fault}

/-- What a modifier makes of its value never fails on the limit, so only the
    expression may. -/
theorem eval_of_modifierCount {name : String} {given : Option Expr}
    (failed : modifierCount filters names name given = .error fault) (isLimit : fault.IsLimit) :
    ∃ e, given = some e ∧ e.eval filters names = .error fault := by
  cases given with
  | none => cases failed
  | some e =>
    rcases eq_error_of_bind failed with evaluated | ⟨v, -, counted⟩
    · exact ⟨e, rfl, evaluated⟩
    · obtain ⟨tag, rfl⟩ := isLimit
      split at counted
      · cases counted
      · cases counted
      next notEvaluation _ =>
        cases counted
        exact absurd rfl (notEvaluation _)

/-- The header of a loop fails on the limit only where one of its expressions
    does. -/
theorem LoopHeader.eval_of_walked {h : LoopHeader} (failed : h.walked filters names = .error fault)
    (isLimit : fault.IsLimit) :
    h.source.eval filters names = .error fault ∨
      ∃ e, (h.offset = some e ∨ h.limit = some e) ∧ e.eval filters names = .error fault := by
  rcases eq_error_of_bind failed with evaluated | ⟨v, -, failed⟩
  · exact .inl evaluated
  · rcases eq_error_of_bind failed with unsourced | ⟨all, -, failed⟩
    · exact absurd isLimit (Value.not_isLimit_of_source unsourced)
    · rcases eq_error_of_bind failed with offset | ⟨offset, -, failed⟩
      · obtain ⟨e, given, evaluated⟩ := eval_of_modifierCount offset isLimit
        exact .inr ⟨e, .inl given, evaluated⟩
      · obtain ⟨e, given, evaluated⟩ :=
          eval_of_modifierCount (eq_error_of_bind_pure failed) isLimit
        exact .inr ⟨e, .inr given, evaluated⟩

end

/-! ## Section 3: What the limit decides -/

/-- May a loop have this many items?  A limit that is not positive is
    none. -/
theorem Settings.allows_iff {limit : Option Int} {count : Nat} :
    allows limit count = true ↔ ∀ c, limit = some c → 0 < c → (count : Int) ≤ c := by
  cases limit with
  | none => simp [allows]
  | some c =>
    simp only [allows, Bool.or_eq_true, decide_eq_true_eq, Option.some.injEq, forall_eq']
    omega

section

variable {engine : Engine} {h : LoopHeader} {start : Run} {walked : Value.Source}
variable (walks : h.walked (engine.filters.atMoment start.moment) start.scope.names = .ok walked)
include walks

/-- More items than the limit allows are refused, before any of them is
    looked at. -/
theorem LoopHeader.checked_of_refused
    (refused : Settings.allows engine.settings.maxLoopItems walked.size = false) (tag : String) :
    ∃ fault, h.checked engine tag start = .error fault ∧
      (walked.size ≤ countLimit → fault = .evaluation (.limitExceeded tag)) := by
  rw [checked, walks]
  show ∃ fault, (walked.count >>= _) = _ ∧ _
  rcases walked.count_cases with counted | ⟨long, uncounted⟩
  · have check : checkLimit engine tag walked.size = .error (.evaluation (.limitExceeded tag)) :=
      if_neg (by simp [refused])
    rw [counted]
    show ∃ fault, (checkLimit engine tag walked.size >>= _) = _ ∧ _
    rw [check]
    exact ⟨_, rfl, fun _ => rfl⟩
  · rw [uncounted]
    exact ⟨_, rfl, fun short => absurd short (Nat.not_le.2 long)⟩

/-- No more items than the limit allows are looked at, and none of what may
    fail then is the limit. -/
theorem LoopHeader.checked_of_allowed
    (allowed : Settings.allows engine.settings.maxLoopItems walked.size = true) (tag : String) :
    (∃ fault, h.checked engine tag start = .error fault ∧ ¬ fault.IsLimit) ∨
      ∃ items, h.checked engine tag start = .ok items ∧ items.length = walked.size := by
  rw [checked, walks]
  show (∃ fault, (walked.count >>= _) = _ ∧ _) ∨ ∃ items, (walked.count >>= _) = _ ∧ _
  -- what cannot be counted fails before it is compared with the limit
  rcases walked.count_cases with counted | ⟨-, uncounted⟩
  · have check : checkLimit engine tag walked.size = .ok () := if_pos allowed
    rw [counted]
    show (∃ fault, (checkLimit engine tag walked.size >>= _) = _ ∧ _) ∨
      ∃ items, (checkLimit engine tag walked.size >>= _) = _ ∧ _
    rw [check]
    cases wrapped : walked.values with
    | error fault => exact .inl ⟨fault, rfl, walked.not_isLimit_of_values wrapped⟩
    | ok items => exact .inr ⟨items, rfl, Value.Source.length_values wrapped⟩
  · rw [uncounted]
    refine .inl ⟨_, rfl, ?_⟩
    rintro ⟨tag, ⟨⟩⟩

end

/-! ## Section 4: Calls of either sort -/

theorem Run.writing_nil (run : Run) : run.writing [] = run := by
  simp [writing]

namespace LoopSort

/-- Where an iteration stands.  Only in a table is there a column. -/
def position (sort : LoopSort) (i length cols : Nat) : LoopPosition :=
  match sort with
  | .plain => ⟨i, length, none⟩
  | .table => ⟨i, length, some cols⟩

/-- What is written in front of a call. -/
def opening (sort : LoopSort) (cols i : Nat) : List String :=
  match sort with
  | .plain => []
  | .table => Table.opening cols i

/-- What is written behind a call. -/
def closing : LoopSort → List String
  | .plain => []
  | .table => ["</td>"]

/-- Are these the calls of a loop's body for all its items? -/
def Calls (sort : LoopSort) (item : String) (length cols : Nat) (body : Render Signal) :
    List Value → Run → List Call → Prop :=
  CallsOf
    (fun i v run =>
      body { run with scope := positionScope item v (sort.position i length cols) run.scope })
    (fun i run => run.writing (sort.opening cols i)) (·.writing sort.closing) 0

/-- What a loop without items does. -/
def otherwise (sort : LoopSort) (alternative : Option (Render Signal)) : Render Signal :=
  match sort with
  | .plain => alternative.getD (pure .none)
  | .table => pure .none

variable {sort : LoopSort} {engine : Engine} {h : LoopHeader} {start : Run}

theorem rest_nil (sort : LoopSort) (engine : Engine) (h : LoopHeader) (body : Render Signal)
    (alternative : Option (Render Signal)) (cols : Nat) :
    sort.rest engine h body alternative [] cols = sort.otherwise alternative := by
  cases sort <;> rfl

/-- A loop with items is the calls of its body, and fails only as the last of
    them does. -/
theorem rest_calls (engine : Engine) (h : LoopHeader) {items : List Value} {cols : Nat}
    (columned : sort = .table → 0 < cols) (some_item : items ≠ []) (body : Render Signal)
    (alternative : Option (Render Signal)) (start : Run) :
    ∃ calls last,
      sort.Calls h.item items.length cols body items
        { start with scope := .child .loop start.scope } calls ∧
      calls.getLast? = some last ∧
      (∀ failure left, last.ended = .error failure left →
        sort.rest engine h body alternative items cols start = .error failure last.outside) ∧
      ∀ signal left, last.ended = .ok signal left →
        ∃ done, sort.rest engine h body alternative items cols start = .ok .none done := by
  obtain ⟨v, vs, rfl⟩ := List.exists_cons_of_ne_nil some_item
  cases sort with
  | plain =>
    obtain ⟨calls, made, last, atEnd, concludes⟩ :=
      @forItems_framed engine h.item (v :: vs).length body v vs 0
        { start with scope := .child .loop start.scope }
    have ended := inFrame_loop engine concludes
    refine ⟨calls, last, ?_, atEnd, fun failure left failed => ?_, fun signal left done => ?_⟩
    -- a plain loop writes nothing around its calls
    · unfold Calls
      simp only [opening, closing, Run.writing_nil]
      exact made
    · unfold Call.Concludes at ended
      rw [failed] at ended
      exact ended
    · unfold Call.Concludes at ended
      rw [done] at ended
      obtain ⟨after, -, completed⟩ := ended
      exact ⟨after, completed⟩
  | table =>
    obtain ⟨calls, last, made, atEnd, fails, completes⟩ :=
      tableRows_calls h body (columned rfl) some_item start
    refine ⟨calls, last, made, atEnd, fails, fun signal left ended => ?_⟩
    obtain ⟨done, completed, -⟩ := completes signal left ended
    exact ⟨done, completed⟩

theorem entered_of_error {fault : Fault} (failed : h.checked engine sort.tag start = .error fault) :
    sort.entered engine h start = .error fault := by
  rw [entered, failed]
  rfl

/-- With its items at hand, only the columns of a table may still fail. -/
theorem entered_of_ok {items : List Value} (found : h.checked engine sort.tag start = .ok items) :
    (∃ fault, sort.entered engine h start = .error fault ∧ sort = .table ∧
      modifierCount (engine.filters.atMoment start.moment) start.scope.names "cols" h.cols =
        .error fault) ∨
    ∃ cols, sort.entered engine h start = .ok (items, cols) ∧ (sort = .table → 0 < cols) := by
  rw [entered, found]
  cases sort with
  | plain => exact .inr ⟨0, rfl, fun table => by cases table⟩
  | table =>
    show (∃ fault, (modifierCount _ _ "cols" h.cols >>= _) = _ ∧ _) ∨
      ∃ cols, (modifierCount _ _ "cols" h.cols >>= _) = _ ∧ _
    cases modifierCount (engine.filters.atMoment start.moment) start.scope.names "cols" h.cols with
    | error fault => exact .inl ⟨fault, rfl, rfl, rfl⟩
    | ok given => exact .inr ⟨_, rfl, fun _ => columns_pos given _⟩

/-- Nodes of either sort are entered in this way, at whatever depth. -/
theorem render_eq (engine : Engine) (h : LoopHeader) (body : List Node)
    (alternative : Option (List Node)) (place : Place) :
    Node.render engine (.loop h body alternative place) =
      LoopSort.plain.run engine h (Node.renderAll engine body)
        (some (Node.renderOption engine alternative)) ∧
    Node.render engine (.table h body place) =
      LoopSort.table.run engine h (Node.renderAll engine body) none := by
  rw [Node.render, Node.render]
  exact ⟨rfl, rfl⟩

/-- Does an entry that finds so many elements left heed the limit? -/
structure Heeds (sort : LoopSort) (engine : Engine) (h : LoopHeader) (start : Run)
    (walked : Value.Source) : Prop where
  /-- With more elements than a positive limit allows, the entry fails in the
      same way whatever the body and the alternative are, and nothing but the
      debug log is any different. -/
  refused : ∀ c, engine.settings.maxLoopItems = some c → 0 < c → c < walked.size →
    ∃ failure after, start.Logged engine after ∧
      (walked.size ≤ countLimit →
        failure = (Fault.evaluation (.limitExceeded sort.tag)).failure ∧
        failure.fault.message = sort.tag ++ ": iteration limit exceeded") ∧
      ∀ body alternative, sort.run engine h body alternative start = .error failure after
  /-- With no more of them, or without a positive limit, the entry does not
      fail on the limit, and calls the body at most once for each. -/
  allowed : (∀ c, engine.settings.maxLoopItems = some c → 0 < c → (walked.size : Int) ≤ c) →
    (∃ fault after, start.Logged engine after ∧
      (fault.IsLimit → sort = .table ∧ modifierCount (engine.filters.atMoment start.moment)
        start.scope.names "cols" h.cols = .error fault) ∧
      ∀ body alternative,
        sort.run engine h body alternative start = .error fault.failure after) ∨
    ∃ items cols entry, items.length = walked.size ∧ start.Logged engine entry ∧
      ∀ body alternative,
        (items = [] →
          sort.run engine h body alternative start = sort.otherwise alternative entry) ∧
        (items ≠ [] → ∃ calls last,
          sort.Calls h.item items.length cols body items
            { entry with scope := .child .loop entry.scope } calls ∧
          calls.length ≤ walked.size ∧ calls.getLast? = some last ∧
          (∀ failure left, last.ended = .error failure left →
            sort.run engine h body alternative start = .error failure last.outside) ∧
          ∀ signal left, last.ended = .ok signal left →
            ∃ done, sort.run engine h body alternative start = .ok .none done)

theorem heeds (sort : LoopSort) {walked : Value.Source}
    (walks : h.walked (engine.filters.atMoment start.moment) start.scope.names = .ok walked) :
    sort.Heeds engine h start walked := by
  obtain ⟨after, logged, ends⟩ := sort.run_enters engine h start
  constructor
  · intro c limit positive more
    have refused : Settings.allows engine.settings.maxLoopItems walked.size = false := by
      rw [← Bool.not_eq_true, Settings.allows_iff]
      intro allowed
      have := allowed c limit positive
      omega
    obtain ⟨fault, checked, counted⟩ := LoopHeader.checked_of_refused walks refused sort.tag
    rw [entered_of_error checked] at ends
    refine ⟨fault.failure, after, logged, fun short => ?_, ends⟩
    rw [counted short]
    exact ⟨rfl, rfl⟩
  · intro allowed
    rcases LoopHeader.checked_of_allowed walks (Settings.allows_iff.2 allowed) sort.tag with
      ⟨fault, checked, other⟩ | ⟨items, checked, size⟩
    · rw [entered_of_error checked] at ends
      exact .inl ⟨fault, after, logged, fun isLimit => absurd isLimit other, ends⟩
    · rcases entered_of_ok checked with ⟨fault, entered, columned⟩ | ⟨cols, entered, columned⟩
      · rw [entered] at ends
        exact .inl ⟨fault, after, logged, fun _ => columned, ends⟩
      · rw [entered] at ends
        refine .inr ⟨items, cols, after, size, logged, fun body alternative => ⟨?_, ?_⟩⟩
        · rintro rfl
          rw [ends body alternative]
          exact congrFun (rest_nil sort engine h body alternative cols) after
        · intro some_item
          obtain ⟨calls, last, made, atEnd, fails, completes⟩ :=
            rest_calls engine h columned some_item body alternative after
          have bounded := made.bounded
          rw [ends body alternative]
          exact ⟨calls, last, made, by omega, atEnd, fails, completes⟩

/-- A header that means nothing fails the entry, in the same way whatever the
    body and the alternative are. -/
theorem run_of_unwalked (sort : LoopSort) {fault : Fault}
    (failed : h.walked (engine.filters.atMoment start.moment) start.scope.names = .error fault) :
    ∃ after, start.Logged engine after ∧ ∀ body alternative,
      sort.run engine h body alternative start = .error fault.failure after := by
  obtain ⟨after, logged, ends⟩ := sort.run_enters engine h start
  have checked : h.checked engine sort.tag start = .error fault := by
    rw [LoopHeader.checked, failed]
    rfl
  rw [entered_of_error checked] at ends
  exact ⟨after, logged, ends⟩

/-- A loop of either sort, entered in any state.  An entry that finds what to
    walk along heeds the limit.  Another one fails as its source, its offset
    or its limit does, so on the limit of the engine only if the expression
    there raises such a fault itself.  Loops inside a body are entered in
    this way too, with the same limit. -/
theorem run_limited (sort : LoopSort) (engine : Engine) (h : LoopHeader) (start : Run) :
    (∀ walked, h.walked (engine.filters.atMoment start.moment) start.scope.names = .ok walked →
      sort.Heeds engine h start walked) ∧
    (∀ fault, h.walked (engine.filters.atMoment start.moment) start.scope.names = .error fault →
      (fault.IsLimit →
        h.source.eval (engine.filters.atMoment start.moment) start.scope.names = .error fault ∨
        ∃ e, (h.offset = some e ∨ h.limit = some e) ∧
          e.eval (engine.filters.atMoment start.moment) start.scope.names = .error fault) ∧
      ∃ after, start.Logged engine after ∧ ∀ body alternative,
        sort.run engine h body alternative start = .error fault.failure after) ∧
    ∀ body alternative place,
      Node.render engine (.loop h body alternative place) =
        LoopSort.plain.run engine h (Node.renderAll engine body)
          (some (Node.renderOption engine alternative)) ∧
      Node.render engine (.table h body place) =
        LoopSort.table.run engine h (Node.renderAll engine body) none := by
  refine ⟨fun walked walks => sort.heeds walks, fun fault failed => ⟨fun isLimit => ?_, ?_⟩,
    render_eq engine h⟩
  · exact h.eval_of_walked failed isLimit
  · exact sort.run_of_unwalked failed

end LoopSort

/-- An engine that allows a single item. -/
def Engine.single : Engine :=
  .standard { Settings.standard with maxLoopItems := some 1 }

/-- It refuses a table of two integers. -/
theorem pair_limited :
    LoopHeader.pair.walked (Engine.single.filters.atMoment 0) Run.fresh.scope.names =
      .ok (.range (.between 1 2)) ∧
    ∃ failure after, Run.fresh.Logged Engine.single after ∧
      failure.fault.message = "tablerow: iteration limit exceeded" ∧
      ∀ body alternative,
        LoopSort.table.run Engine.single .pair body alternative Run.fresh =
          .error failure after := by
  have walks : LoopHeader.pair.walked (Engine.single.filters.atMoment 0) Run.fresh.scope.names =
      .ok (.range (.between 1 2)) := rfl
  have size : (Value.Source.range (.between 1 2)).size = 2 := rfl
  have heeds := (LoopSort.table.run_limited Engine.single .pair Run.fresh).1 _ walks
  obtain ⟨failure, after, logged, limited, fails⟩ :=
    heeds.refused 1 rfl (by decide) (by rw [size]; decide)
  exact ⟨walks, failure, after, logged, (limited (by rw [size]; decide)).2, fails⟩

end Stencil
