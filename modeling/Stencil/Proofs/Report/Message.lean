import Stencil.Proofs.Template.Blame

/-! # Messages of reports

    The report of a template is its output, or a message that begins with
    the sort of a fault.  So what users are told is never empty, and a report
    that points at a mark always names the line and column, which takes two
    numbers that can be written. -/

namespace Stencil

/-! ## Section 1: Outcomes -/

/-- Is it the report of a failure, whose message begins with the sort of a
    fault? -/
inductive Report.IsHeaded : Report → Prop
  | failure (fault : Fault) (rest : String) (place : Option Place) :
    IsHeaded (.failure (fault.heading ++ ": " ++ rest) place)

theorem Engine.conclude_headed (engine : Engine) (source : String) (log : List String)
    (f : Failure) :
    Meets Report.IsHeaded (fun _ => True) (engine.conclude source log f).report := by
  unfold Engine.conclude
  split
  · have headed : Meets Report.IsHeaded (fun _ => True) (Report.ofFailure source f) := by
      cases made : Report.ofFailure source f with
      | error cause => exact .error trivial
      | ok report =>
        obtain ⟨rest, rfl⟩ := Report.failure_of_ofFailure made
        exact .ok (.failure f.fault rest f.place)
    exact headed.mapError fun _ _ => trivial
  · exact .error trivial

/-- Is this the output of a template for the bindings? -/
def Engine.Yields (engine : Engine) (source : String) (bindings : Bindings) (output : String) :
    Prop :=
  ∃ t, Template.compile source = .ok t ∧
    (t.renderIn engine (.ofBindings bindings)).result = .ok output

/-- A template is handled with its output, if it has one, and with what
    concludes a failure otherwise. -/
theorem Engine.handle_cases (engine : Engine) (source : String) (bindings : Bindings) :
    (∃ output log, engine.handle source bindings = ⟨.ok (.success output), log⟩ ∧
      ∀ other, engine.Yields source bindings other ↔ other = output) ∨
    ∃ log f, engine.handle source bindings = engine.conclude source log f ∧
      ∀ other, ¬ engine.Yields source bindings other := by
  unfold Engine.handle Engine.Yields
  cases compiled : Template.compile source with
  | error f => exact .inr ⟨_, f, rfl, fun _ ⟨_, ok, _⟩ => nomatch ok⟩
  | ok t =>
    simp only [Except.ok.injEq, exists_eq_left']
    cases rendered : (t.renderIn engine (.ofBindings bindings)).result with
    | ok output => exact .inl ⟨output, _, rfl, fun _ => ⟨fun | rfl => rfl, fun | rfl => rfl⟩⟩
    | error f => exact .inr ⟨_, f, rfl, nofun⟩

section

variable {engine : Engine} {source : String} {bindings : Bindings}

/-- A template is reported to succeed exactly with the output that it has. -/
theorem Engine.report_eq_success_iff {output : String} :
    (engine.handle source bindings).report = .ok (.success output) ↔
      engine.Yields source bindings output := by
  obtain ⟨text, log, handled, alone⟩ | ⟨log, f, handled, silent⟩ :=
    engine.handle_cases source bindings
  · rw [handled, alone]
    exact ⟨fun | rfl => rfl, fun | rfl => rfl⟩
  · refine iff_of_false ?_ (silent output)
    rw [handled]
    intro concluded
    cases (engine.conclude_headed source log f).of_ok concluded

/-- The message about a failure begins with the sort of a fault. -/
theorem Engine.headed_of_handle {message : String} {place : Option Place}
    (failed : (engine.handle source bindings).report = .ok (.failure message place)) :
    ∃ (fault : Fault) (rest : String), message = fault.heading ++ ": " ++ rest := by
  obtain ⟨text, log, handled, -⟩ | ⟨log, f, handled, -⟩ := engine.handle_cases source bindings
  · rw [handled] at failed
    cases failed
  · rw [handled] at failed
    cases (engine.conclude_headed source log f).of_ok failed with
    | failure fault rest => exact ⟨fault, rest, rfl⟩

end

/-! ## Section 2: Messages -/

namespace Report

theorem not_lineLead (fault : Fault) (rest : String) :
    lineLead.toList.isPrefixOf (fault.heading ++ ": " ++ rest).toList = false := by
  cases fault <;> simp [Fault.heading, lineLead, List.isPrefixOf]

theorem heading_append_ne_empty (fault : Fault) (rest : String) :
    fault.heading ++ ": " ++ rest ≠ "" := by
  simp

theorem formatError_unplaced (fault : Fault) (rest : String) :
    (failure (fault.heading ++ ": " ++ rest) none).formatError =
      .ok (fault.heading ++ ": " ++ rest) := by
  rw [formatError, if_neg (heading_append_ne_empty fault rest)]

/-- A report that points at a mark names its line and column in front, and so
    it needs both of them written. -/
theorem formatError_placed (fault : Fault) (rest : String) (m : Mark) :
    (failure (fault.heading ++ ": " ++ rest) (some m.place)).formatError = (do
      let col ← (Native.writeInt m.position.col).map (", col " ++ ·)
      let line ← Native.writeInt m.position.line
      return lineLead ++ line ++ col ++ ": " ++ (fault.heading ++ ": " ++ rest)) := by
  rw [formatError, if_neg (heading_append_ne_empty fault rest)]
  simp only [not_lineLead, Mark.place, Native.plainDisplay, Native.display]
  rfl

end Report

/-- Is the line or the column a number with too many digits to be written? -/
def Mark.IsBeyond (m : Mark) : Prop :=
  Numeral.writeLimit ≤ m.position.line ∨ Numeral.writeLimit ≤ m.position.col

theorem Mark.isBeyond_iff_of_place (m : Mark) {m' : Mark} (same : m.place = m'.place) :
    m.IsBeyond ↔ m'.IsBeyond := by
  simp only [Mark.place, Place.mk.injEq, Native.int.injEq, Int.natCast_inj] at same
  rw [IsBeyond, IsBeyond, same.1, same.2.1]

theorem Report.formatError_beyond {fault : Fault} {rest : String} {m : Mark} (h : m.IsBeyond) :
    (failure (fault.heading ++ ": " ++ rest) (some m.place)).formatError =
      .error (.numeral .tooLong) := by
  rw [formatError_placed]
  by_cases wide : Numeral.writeLimit ≤ m.position.col
  · rw [Native.writeInt_of_le (by simpa using wide)]
    rfl
  · have long : Numeral.writeLimit ≤ m.position.line := h.resolve_right wide
    rw [Native.writeInt_of_lt (by simpa using wide), Native.writeInt_of_le (by simpa using long)]
    rfl

/-- The message of a report at a mark within the limits. -/
theorem Report.exists_formatError (fault : Fault) (rest : String) {m : Mark}
    (h : ¬ m.IsBeyond) : ∃ message,
      (failure (fault.heading ++ ": " ++ rest) (some m.place)).formatError = .ok message ∧
        message ≠ "" := by
  obtain ⟨short, narrow⟩ := not_or.1 h
  rw [formatError_placed, Native.writeInt_of_lt (by simpa using narrow),
    Native.writeInt_of_lt (by simpa using short)]
  exact ⟨_, rfl, by simp⟩

end Stencil
