import Stencil.CommandLine
import Stencil.Document.Readers

/-! # The program

    Reads files, variables and lines, and prints what the command line
    makes of them. -/

namespace Stencil.CommandLine

/-- What a path leads to.  What is there and is no file counts as a
    directory. -/
def entryAt (path : String) : IO FileTree.Entry := do
  try
    let bytes ← IO.FS.readBinFile path
    return .file (bytes.toList.map UInt8.toNat)
  catch
    | .noFileOrDirectory _ _ _ => return .nothing
    | .invalidArgument _ _ _ => return .nameTooLong
    | _ => return .directory

/-- The variables that decide the settings. -/
def settingNames : List String :=
  ["DRIP_MAX_LOOP_ITERS", "DRIP_STRICT_FILTERS", "DRIP_DEBUG"]

/-- The variables that are set. -/
def environment : IO (List (String × String)) :=
  settingNames.filterMapM fun name => do
    return (← IO.getEnv name).map (name, ·)

/-- The exit code of a run. -/
def finish : Ending → IO UInt32
  | .exit code => return code.toUInt32
  | .escaped cause => do
    IO.eprintln cause.message
    return 1

/-- Answers lines as they come. -/
partial def talk (engine : Engine) : IO UInt32 := do
  let stdout ← IO.getStdout
  stdout.putStr prompt
  stdout.flush
  let line ← (← IO.getStdin).getLine
  if line.isEmpty then
    stdout.putStr farewell
    return 0
  let a := answer engine line
  stdout.putStr a.out
  IO.eprint a.err
  match a.ending with
  | some ending => finish ending
  | none => talk engine

/-- Renders a template file, or converses. -/
def program (arguments : List String) : IO UInt32 := do
  let environment ← environment
  match paths arguments with
  | [] =>
    IO.print greeting
    talk (.standard (.ofEnvironment environment))
  | names =>
    let entries ← (names.take 2).mapM fun path => do return (path, ← entryAt path)
    let entry (path : String) : FileTree.Entry := (entries.lookup path).getD .nothing
    let r := run .standard ⟨arguments, environment, entry, []⟩
    IO.print r.out
    IO.eprint r.err
    finish r.ending

end Stencil.CommandLine

/-- The entry of the program. -/
def main (arguments : List String) : IO UInt32 :=
  Stencil.CommandLine.program arguments
