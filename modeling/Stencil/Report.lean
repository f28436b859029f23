import Stencil.Template.Render

/-! # Reports

    The outcome of a template for its author: the output, or a message with
    an excerpt of the source around the place that is blamed.  Only faults
    that no report covers leave the engine as faults: those outside the
    language, and those of a place that a host gave and that no excerpt can
    be made for. -/

namespace Stencil

open Text

/-! ## Section 1: Names of faults -/

/-- The class of a fault in the debug log. -/
def Fault.className : Fault → String
  | .malformed _ => "DripSyntaxError"
  | .stray _ => "ControlError"
  | .evaluation _ => "EvaluationError"
  | .undefinedFilter _ => "UndefinedFilter"
  | .custom _ _ => "DripError"
  | .operand _ => "OperandError"
  | .external _ => "RuntimeError"

/-- The sort of a fault in a report. -/
def Fault.heading : Fault → String
  | .malformed _ => "SyntaxError"
  | .stray _ => "ControlError"
  | .evaluation _ | .undefinedFilter _ => "EvaluationError"
  | .custom _ _ | .operand _ | .external _ => "Error"

/-! ## Section 2: Excerpts -/

/-- `s` with spaces in front up to `width` characters. -/
def padLeft (width : Nat) (s : String) : String :=
  String.ofList (List.replicate (width - s.length) ' ') ++ s

/-- How far a caret under a column is moved in. -/
def caretIndent (col : Native) : Except OperandFault Nat :=
  match col.number? with
  | some (.int c) => .ok (c - 1).toNat
  | some (.float c) =>
    if Number.less (.float c) (.int 1) then .ok 0 else .error (.notCount col.typeName)
  | none => .error (.unsupported "-" col.typeName "int")

/-- The line below the marked one: a caret under a column, if there is one. -/
def caretLine (width : Nat) (col : Native) : Except OperandFault (List String) :=
  match col with
  | .nil => .ok []
  | col => do
    let indent := String.ofList (List.replicate (← caretIndent col) ' ')
    return ["  " ++ padLeft width "" ++ " | " ++ indent ++ "^"]

/-- The numbered lines of an excerpt: `number` is that of the first of
    `lines`, and the one with the number `line` is marked, with the caret
    below it. -/
def excerptLines (width : Nat) (line : Number) (col : Native) :
    Nat → List (List Char) → Except OperandFault (List String)
  | _, [] => .ok []
  | number, cs :: rest => do
    let marked := Number.equal (.int number) line
    let shown := (if marked then "> " else "  ") ++ padLeft width (toString number) ++ " | " ++
      String.ofList cs
    let caret ← if marked then caretLine width col else pure []
    return shown :: caret ++ (← excerptLines width line col (number + 1) rest)

/-- The first and the last line of an excerpt from `count` lines, at most
    `radius` on each side of one.  Around a line that is no integer, only
    all of them can be shown. -/
def excerptBounds (line : Number) (radius : Int) (count : Nat) : Except OperandFault (Nat × Nat) :=
  match line with
  | .int n => .ok ((max 1 (n - radius)).toNat, (min (count : Int) (n + radius)).toNat)
  | .float d =>
    let low := d.sub (.ofInt radius)
    let high := d.add (.ofInt radius)
    if Number.less (.int 1) (.float low) || Number.less (.float high) (.int count) then
      .error (.notIndex (Native.float d).typeName)
    else .ok (1, count)

/-- The lines of a source around a line, at most `radius` on each side.
    There is no excerpt of a line that the source does not have. -/
def excerpt (source : String) (line col : Native) (radius : Int) : Except OperandFault String :=
  if !line.isTrue then .ok ""
  else
    match line.number? with
    | none => .error (.unordered line.typeName "int")
    | some n => do
      let all := lines source.toList
      if Number.less n (.int 1) || Number.less (.int all.length) n then return ""
      let (first, last) ← excerptBounds n radius all.length
      let width := (toString last).length
      return String.intercalate "\n"
        (← excerptLines width n col first ((all.take last).drop (first - 1)))

/-- How many lines a report shows on each side. -/
def excerptRadius : Int := 2

/-! ## Section 3: Reports -/

/-- The outcome of a template for its author. -/
inductive Report where
  | success (output : String)
  | failure (message : String) (place : Option Place)

namespace Report

/-- The report of a failure in a source, with an excerpt if a line is
    named. -/
def ofFailure (source : String) (f : Failure) : Except OperandFault Report :=
  let message := f.fault.heading ++ ": " ++ f.fault.message
  match f.place with
  | none => .ok (.failure message none)
  | some p =>
    match p.line with
    | .nil => .ok (.failure message (some p))
    | line => do
      return .failure (message ++ "\n" ++ (← excerpt source line p.col excerptRadius)) (some p)

/-- What the message starts with when it names a line already. -/
def lineLead : String := "Error on line "

/-- The message of a failed report, with line and column in front.  A
    message that names a line already stays as it is. -/
def formatError : Report → Except OperandFault String
  | .success _ => .ok ""
  | .failure message place =>
    let text := if message = "" then "Unknown error" else message
    match place with
    | none => .ok text
    | some p =>
      if lineLead.toList.isPrefixOf text.toList then .ok text
      else do
        let col ← match p.col with
          | .nil => pure ""
          | col => col.plainDisplay.map (", col " ++ ·)
        return lineLead ++ (← p.line.plainDisplay) ++ col ++ ": " ++ text

end Report

/-! ## Section 4: Handling a template -/

/-- A report, or the fault that none covers, and the entries of the debug
    log. -/
structure Handled where
  report : Except Fault Report
  log : List String

/-- Lines as entries of the log, which is only written when debugging. -/
def Engine.logged (engine : Engine) (lines : List String) : List String :=
  if engine.settings.debug then lines.map Log.line else []

/-- The report of a failure, and the entry that it adds to the log. -/
def Engine.conclude (engine : Engine) (source : String) (log : List String) (f : Failure) :
    Handled :=
  if f.fault.reportable then
    ⟨(Report.ofFailure source f).mapError .operand,
      log ++ engine.logged ["render failed: " ++ f.fault.className ++ " " ++ f.fault.message]⟩
  else ⟨.error f.fault, log⟩

/-- Compiles and renders a template. -/
def Engine.handle (engine : Engine) (source : String) (bindings : Bindings) : Handled :=
  let compiling := engine.logged (Template.compileLines source)
  match Template.compile source with
  | .error f => engine.conclude source compiling f
  | .ok t =>
    let rendered := t.renderIn engine (.ofBindings bindings)
    let log := compiling ++ rendered.log
    match rendered.result with
    | .ok output => ⟨.ok (.success output), log⟩
    | .error f => engine.conclude source log f

end Stencil
