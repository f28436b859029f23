import Stencil.Document.Bindings
import Stencil.Document.FileTree
import Stencil.Report

/-! # The command line

    Renders a template file with the bindings of another file, or answers
    line by line.  What a run prints and how it ends is a function of the
    arguments, the environment, the files and the lines of input. -/

namespace Stencil.CommandLine

/-! ## Section 1: Runs -/

/-- A fault that ends a run without a message. -/
inductive Escape where
  /-- A fault of the template that no report covers. -/
  | fault (cause : Fault)
  /-- A template file that is no UTF-8. -/
  | encoding (cause : Text.Utf8.Fault)
  /-- A file of bindings with a fault that users are not told about. -/
  | bindings (cause : BindingsFault)
  /-- A path that leads to a directory. -/
  | directory (path : String)
  /-- A path that leads on from a file. -/
  | throughFile (path : String)
  /-- A path that is longer than any name. -/
  | nameTooLong (path : String)
  /-- A path with a null character, which no name has. -/
  | nullCharacter

/-- The message about a path with a null character. -/
def nullCharacter : String := "embedded null byte"

/-- The message of such a fault. -/
def Escape.message : Escape → String
  | .fault cause => cause.message
  | .encoding cause => cause.message
  | .bindings cause => cause.message
  | .directory path => "[Errno 21] Is a directory: " ++ Text.quote (Path.shown path)
  | .throughFile path => "[Errno 20] Not a directory: " ++ Text.quote (Path.shown path)
  | .nameTooLong path => "[Errno 36] File name too long: " ++ Text.quote (Path.shown path)
  | .nullCharacter => CommandLine.nullCharacter

/-- How a run ends. -/
inductive Ending where
  | exit (code : Nat)
  | escaped (cause : Escape)

/-- What a run prints, and how it ends. -/
structure Run where
  out : String
  err : String
  ending : Ending

/-- What a run depends on. -/
structure Request where
  arguments : List String
  environment : List (String × String)
  /-- What each path leads to. -/
  entry : String → FileTree.Entry
  /-- The lines of the input, each with its line break. -/
  input : List String

/-! ## Section 2: Rendering a file -/

/-- A run that ends with a message. -/
def Run.refused (message : String) : Run :=
  ⟨"", message ++ "\n", .exit 1⟩

/-- A run that a fault ends. -/
def Run.cutOff (cause : Escape) : Run :=
  ⟨"", "", .escaped cause⟩

/-- The message about a file that does not exist. -/
def missingFile (path : String) : String :=
  "Error: file not found: " ++ path

/-- The message about a file that gives no bindings, and the cause. -/
def badBindings (path cause : String) : String :=
  "Error: " ++ path ++ ": " ++ cause

/-- Has a path a null character?  So it names nothing. -/
def isNoName (path : String) : Bool :=
  path.toList.contains '\x00'

/-- The bytes of a file, or the run that ends for the lack of them. -/
def fileBytes (entry : String → FileTree.Entry) (path : String) : Except Run (List Nat) :=
  match entry path with
  | .nothing => .error (.refused (missingFile path))
  | .directory => .error (.cutOff (.directory path))
  | .throughFile => .error (.cutOff (.throughFile path))
  | .nameTooLong => .error (.cutOff (.nameTooLong path))
  | .file bytes => .ok bytes

/-- The text of a template file, or the run that ends for the lack of it. -/
def templateText (entry : String → FileTree.Entry) (path : String) : Except Run String :=
  if isNoName path then .error (.cutOff .nullCharacter)
  else do
    let bytes ← fileBytes entry path
    (Text.Utf8.readText bytes).mapError fun cause => .cutOff (.encoding cause)

/-- The run that a fault in a file of bindings ends. -/
def Run.ofBindingsFault (path : String) (cause : BindingsFault) : Run :=
  if cause.isReported then .refused (badBindings path cause.message)
  else .cutOff (.bindings cause)

/-- The bindings of a file, or the run that ends for the lack of them. -/
def fileBindings (readers : Readers) (entry : String → FileTree.Entry) (path : String) :
    Except Run Bindings :=
  if isNoName path then .error (.refused (badBindings path nullCharacter))
  else do
    let bytes ← fileBytes entry path
    let entries ← (Bindings.load readers path bytes).mapError (Run.ofBindingsFault path)
    return Bindings.ofEntries entries

/-- The run that a handled template makes: the output, or the message. -/
def Run.ofHandled (h : Handled) : Run :=
  let log := String.join h.log
  match h.report with
  | .error cause => ⟨"", log, .escaped (.fault cause)⟩
  | .ok (.success output) => ⟨output, log, .exit 0⟩
  | .ok report =>
    match report.formatError with
    | .ok message => ⟨"", log ++ message ++ "\n", .exit 1⟩
    | .error cause => ⟨"", log, .escaped (.fault (.operand cause))⟩

/-- Renders a template file.  The template is read before the bindings. -/
def renderFile (readers : Readers) (engine : Engine) (entry : String → FileTree.Entry)
    (template : String) (bindings : Option String) : Run :=
  let result := do
    let source ← templateText entry template
    let names ← match bindings with
      | some path => fileBindings readers entry path
      | none => .ok []
    return Run.ofHandled (engine.handle source names)
  match result with
  | .ok run => run
  | .error run => run

/-! ## Section 3: Answering line by line -/

/-- What is printed before the first line is read. -/
def greeting : String :=
  "Drip v0.1\nType 'exit' or press Ctrl+D to quit.\n"

/-- What is printed before each line is read. -/
def prompt : String := ">> "

/-- What is printed at the end of the input. -/
def farewell : String := "\nExiting.\n"

/-- The line that ends the input. -/
def exitWord : String := "exit"

/-- The answer to one line: what it prints, and how the run ends with it, if
    it does.  A template that fails does not end the run. -/
structure Answer where
  out : String
  err : String
  ending : Option Ending

/-- Answers a line. -/
def answer (engine : Engine) (line : String) : Answer :=
  let source := Text.trimString line
  if source = "" then ⟨"", "", none⟩
  else if source = exitWord then ⟨"", "", some (.exit 0)⟩
  else
    let run := Run.ofHandled (engine.handle source [])
    match run.ending with
    | .exit code => ⟨if code = 0 then run.out ++ "\n" else "", run.err, none⟩
    | .escaped cause => ⟨"", run.err, some (.escaped cause)⟩

/-- Answers lines until one ends the run, or there are none left. -/
def converse (engine : Engine) : List String → Run
  | [] => ⟨prompt ++ farewell, "", .exit 0⟩
  | line :: lines =>
    let a := answer engine line
    match a.ending with
    | some ending => ⟨prompt ++ a.out, a.err, ending⟩
    | none =>
      let rest := converse engine lines
      ⟨prompt ++ a.out ++ rest.out, a.err ++ rest.err, rest.ending⟩

/-! ## Section 4: The program -/

/-- The arguments that name files: those without a dash in front. -/
def paths (arguments : List String) : List String :=
  arguments.filter fun a => a.toList.head? ≠ some '-'

/-- Runs the program: the first path is the template's, the second one that
    of the bindings.  Without a path the program converses. -/
def run (readers : Readers) (r : Request) : Run :=
  let engine := Engine.standard (.ofEnvironment r.environment)
  match paths r.arguments with
  | [] =>
    let talk := converse engine r.input
    { talk with out := greeting ++ talk.out }
  | template :: others => renderFile readers engine r.entry template others.head?

end Stencil.CommandLine
