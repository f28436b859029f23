import Stencil.Proofs.Template.Compile
import Stencil.Report

/-! # What no report covers

    The report of a failure at a numbered place can always be made.  So what
    leaves the engine with the standard filters is a fault outside the
    language: one of the limits of the host that nothing guards, met while
    the template is compiled or rendered. -/

namespace Stencil

/-! ## Section 1: Excerpts -/

theorem caretLine_meets (width : Nat) (col : Int) :
    Meets (fun _ => True) (fun _ => False) (caretLine width (.int col)) :=
  .ok trivial

theorem excerptLines_meets (width : Nat) (line : Number) (col : Int) (number : Nat)
    (css : List (List Char)) :
    Meets (fun _ => True) (fun _ => False) (excerptLines width line (.int col) number css) := by
  induction css generalizing number with
  | nil => exact .ok trivial
  | cons cs rest ih =>
    have later := ih (number + 1)
    rw [excerptLines]
    split
    · refine Meets.bind (caretLine_meets width col) fun _ _ => ?_
      exact Meets.bind later fun _ _ => .ok trivial
    · have none : Meets (fun _ => True) (fun _ => False)
          (pure [] : Except OperandFault (List String)) := .ok trivial
      refine Meets.bind none fun _ _ => ?_
      exact Meets.bind later fun _ _ => .ok trivial

theorem excerptBounds_meets (line radius : Int) (count : Nat) :
    Meets (fun _ => True) (fun _ => False) (excerptBounds (.int line) radius count) :=
  .ok trivial

theorem excerpt_meets (source : String) (line col radius : Int) :
    Meets (fun _ => True) (fun _ => False) (excerpt source (.int line) (.int col) radius) := by
  unfold excerpt
  split
  · exact .ok trivial
  · simp only [Native.number?]
    split
    · exact .ok trivial
    · refine Meets.bind (excerptBounds_meets line radius _) fun _ _ => ?_
      exact Meets.bind (excerptLines_meets _ _ col _ _) fun _ _ => .ok trivial

/-! ## Section 2: Reports of failures -/

theorem Report.ofFailure_meets (source : String) {f : Failure}
    (h : ∀ p, f.place = some p → p.IsNumbered) :
    Meets (fun _ => True) (fun _ => False) (Report.ofFailure source f) := by
  unfold Report.ofFailure
  cases place : f.place with
  | none => exact .ok trivial
  | some p =>
    obtain ⟨line, col, atLine, atCol⟩ := h p place
    simp only [atLine, atCol]
    exact Meets.bind (excerpt_meets source line col excerptRadius) fun _ _ => .ok trivial

/-- Is this a failure that is reported, or one outside the language? -/
structure Failure.IsSettled (f : Failure) : Prop where
  fault : f.fault.reportable = true ∨
    ∃ cause : OperandFault, f.fault = .operand cause ∧ cause.IsUnguarded
  place : ∀ p, f.place = some p → p.IsNumbered

theorem Failure.IsOfSource.isSettled {f : Failure} (h : f.IsOfSource) : f.IsSettled := by
  refine ⟨?_, h.place⟩
  obtain ⟨cause, malformed⟩ | unguarded := h.fault
  · rw [malformed]
    exact .inl rfl
  · exact .inr unguarded

/-- What is promised about a rendering of sound data with the standard
    filters. -/
def Terms.standard : Terms :=
  ⟨True, fun _ => False, False, Place.IsNumbered, nofun⟩

theorem Terms.Allows.isSettled {f : Failure} (h : Terms.standard.Allows f) : f.IsSettled := by
  refine ⟨?_, h.place⟩
  obtain (ordinary | ⟨name, undefined⟩ | own) | ⟨-, cause, stray⟩ := h.fault
  -- sound data are given, so an operand is only at fault at a limit
  · cases fault : f.fault with
    | operand cause =>
      rw [fault] at ordinary
      obtain unguarded | ⟨-, unsound⟩ := ordinary
      · exact .inr ⟨cause, rfl, unguarded⟩
      · exact absurd trivial unsound
    | external message =>
      rw [fault] at ordinary
      exact ordinary.elim
    | _ => exact .inl rfl
  · rw [undefined]
    exact .inl rfl
  · exact own.elim
  · rw [stray]
    exact .inl rfl

theorem Engine.conclude_eq_error {engine : Engine} {source : String} {log : List String}
    {f : Failure} (h : f.IsSettled) {fault : Fault} :
    (engine.conclude source log f).report = .error fault ↔
      f.fault = fault ∧ ∃ cause : OperandFault, fault = .operand cause ∧ cause.IsUnguarded := by
  unfold Engine.conclude
  obtain reportable | ⟨cause, outside, unguarded⟩ := h.fault
  · rw [if_pos reportable]
    constructor
    · -- a report can always be made, the place of the failure being in the source
      intro escaped
      exfalso
      cases made : Report.ofFailure source f with
      | ok report =>
        rw [made] at escaped
        cases escaped
      | error cause => exact (Report.ofFailure_meets source h.place).of_error made
    · rintro ⟨rfl, cause, outside, -⟩
      rw [outside] at reportable
      cases reportable
  · have unreportable : ¬ f.fault.reportable = true := by
      rw [outside]
      exact nofun
    rw [if_neg unreportable]
    constructor
    · intro escaped
      cases escaped
      exact ⟨rfl, cause, outside, unguarded⟩
    · rintro ⟨same, -⟩
      rw [same]

/-! ## Section 3: The engine -/

theorem Template.renderIn_isSettled {settings : Settings} {t : Template}
    (placed : ∀ n ∈ t.nodes, n.Placed) {bindings : Bindings} (hb : bindings.Sound) {f : Failure}
    (failed : (t.renderIn (.standard settings) (.ofBindings bindings)).result = .error f) :
    f.IsSettled := by
  have yields : (Filter.standard settings.strictFilters).Yields True fun _ => False :=
    Filter.standard_yields settings.strictFilters
  have admitted : ∀ n ∈ t.nodes, Node.Every Terms.standard.Admits false n := by
    intro n hn
    exact (placed n hn false).mono fun inLoop m here => ⟨here, False.elim⟩
  exact (Template.renderIn_allows yields admitted (fun _ => hb) failed).isSettled

/-- Does handling a template come to the fault, while it is compiled or while
    it is rendered? -/
def Engine.ComesTo (engine : Engine) (source : String) (bindings : Bindings) (fault : Fault) :
    Prop :=
  (∃ f, Template.compile source = .error f ∧ f.fault = fault) ∨
    ∃ t f, Template.compile source = .ok t ∧
      (t.renderIn engine (.ofBindings bindings)).result = .error f ∧ f.fault = fault

/-- A fault leaves the engine exactly when handling the template comes to
    one of the limits of the host that nothing guards: a range with too many
    members is counted, or an integer with too many digits, or with padding
    that is no white space to the host, is read or written. -/
theorem Engine.handle_escapes_iff (settings : Settings) (source : String) {bindings : Bindings}
    (hb : bindings.Sound) (fault : Fault) :
    ((Engine.standard settings).handle source bindings).report = .error fault ↔
      (Engine.standard settings).ComesTo source bindings fault ∧
        ∃ cause : OperandFault, fault = .operand cause ∧ cause.IsUnguarded := by
  unfold Engine.handle ComesTo
  cases compiled : Template.compile source with
  | error f =>
    have settled := ((Template.compile_meets source).of_error compiled).isSettled
    simp only
    rw [Engine.conclude_eq_error settled]
    simp
  | ok t =>
    have placed := (Template.compile_meets source).of_ok compiled
    simp only
    cases rendered : (t.renderIn (.standard settings) (.ofBindings bindings)).result with
    | ok output => simp [rendered]
    | error f =>
      have settled := Template.renderIn_isSettled placed hb rendered
      simp only
      rw [Engine.conclude_eq_error settled]
      simp [rendered]

/-- A template that asks for the size of a range with one member more than
    can be counted. -/
def oversize : String :=
  "\x7b\x7b (0..9223372036854775807).size \x7d\x7d"

theorem oversize_not_reported :
    ((Engine.standard .standard).handle oversize []).report.toBool = false := by
  decide +kernel

/-- The fault that leaves the engine on this template is that of a limit. -/
theorem oversize_comes_to_limit :
    Bindings.Sound [] ∧ ∃ fault, (Engine.standard .standard).ComesTo oversize [] fault ∧
      ∃ cause : OperandFault, fault = .operand cause ∧ cause.IsUnguarded := by
  have sound : Bindings.Sound [] := nofun
  refine ⟨sound, ?_⟩
  cases handled : ((Engine.standard .standard).handle oversize []).report with
  | ok report =>
    have reported := oversize_not_reported
    rw [handled] at reported
    cases reported
  | error fault =>
    exact ⟨fault, (Engine.handle_escapes_iff .standard oversize sound fault).1 handled⟩

/-- So handling a template does not always end with a report. -/
theorem oversize_escapes :
    ¬ ∀ (settings : Settings) (source : String) (bindings : Bindings), bindings.Sound →
      ∃ report, ((Engine.standard settings).handle source bindings).report = .ok report := by
  intro always
  obtain ⟨report, handled⟩ := always .standard oversize [] nofun
  have reported := oversize_not_reported
  rw [handled] at reported
  cases reported

end Stencil
