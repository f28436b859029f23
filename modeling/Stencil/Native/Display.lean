import Stencil.Native.Basic
import Stencil.OperandFault
import Stencil.Number.Shortest

/-! # Native data as messages show them

    The type name and the notation of a datum: texts and bytes in quotes,
    lists in brackets, dictionaries in braces.  An integer too long to be written
    has no notation, and neither has anything that holds one. -/

namespace Stencil

/-! ## Section 1: Type names -/

/-- The name of a datum's type. -/
def Native.typeName : Native → String
  | .nil => "NoneType"
  | .bool _ => "bool"
  | .int _ => "int"
  | .float _ => "float"
  | .text _ => "str"
  | .list _ => "list"
  | .bytes _ => "bytes"
  | .dict _ => "dict"
  | .range _ => "range"
  | .date _ => "datetime.date"
  | .loop ⟨_, _, none⟩ => "ForloopMetadata"
  | .loop ⟨_, _, some _⟩ => "TablerowMetadata"

/-- The name of a datum's type without its home: the last part of it. -/
def Native.plainTypeName : Native → String
  | .date _ => "date"
  | n => n.typeName

/-- The name of a datum's type with its home in front, as notations of types
    have it. -/
def Native.fullTypeName : Native → String
  | .loop p => "drip.drip_datatypes." ++ (Native.loop p).typeName
  | n => n.typeName

/-! ## Section 2: Notation -/

/-- An integer in notation. -/
def Native.writeInt (n : Int) : Except OperandFault String :=
  (Numeral.write n).mapError .numeral

/-- `n` in decimal, with leading zeros up to `width`. -/
def padded (width n : Nat) : String :=
  let digits := toString n
  String.ofList (List.replicate (width - digits.length) '0') ++ digits

/-- Year, month and day with hyphens. -/
def Date.iso (d : Date) : String :=
  padded 4 d.year ++ "-" ++ padded 2 d.month ++ "-" ++ padded 2 d.day

/-- A date as messages show it. -/
def Date.display (d : Date) : String :=
  "datetime.date(" ++ toString d.year ++ ", " ++ toString d.month ++ ", " ++ toString d.day ++ ")"

/-- A range as messages show it; a step of one is left out. -/
def Progression.display (r : Progression) : Except OperandFault String := do
  let start ← Native.writeInt r.start
  let stop ← Native.writeInt r.stop
  if r.step = 1 then
    return "range(" ++ start ++ ", " ++ stop ++ ")"
  let step ← Native.writeInt r.step
  return "range(" ++ start ++ ", " ++ stop ++ ", " ++ step ++ ")"

/-- A loop position as messages show it. -/
def LoopPosition.display (p : LoopPosition) : Except OperandFault String := do
  let index0 ← Native.writeInt p.index0
  let length ← Native.writeInt p.length
  let shared := "index0=" ++ index0 ++ ", length=" ++ length
  match p.cols with
  | none => return "ForloopMetadata(" ++ shared ++ ")"
  | some cols => return "TablerowMetadata(" ++ shared ++ ", cols=" ++ (← Native.writeInt cols) ++ ")"

/-- Members one after another, with a comma between neighbours. -/
def commaSeparated (parts : List String) : String :=
  String.intercalate ", " parts

namespace Native

mutual

/-- A datum as messages show it. -/
def display : Native → Except OperandFault String
  | .nil => .ok "None"
  | .bool b => .ok (if b then "True" else "False")
  | .int n => writeInt n
  | .float d => .ok d.text
  | .text s => .ok (Text.quote s)
  | .list items => do
    let parts ← displayItems items
    return "[" ++ commaSeparated parts ++ "]"
  | .bytes bs => .ok (Text.quoteBytes bs)
  | .dict entries => do
    let parts ← displayEntries entries
    return "\x7b" ++ commaSeparated parts ++ "\x7d"
  | .range r => r.display
  | .date d => .ok d.display
  | .loop p => p.display

/-- The members of a list. -/
def displayItems : List Native → Except OperandFault (List String)
  | [] => .ok []
  | a :: as => do
    let part ← display a
    let parts ← displayItems as
    return part :: parts

/-- The entries of a dictionary. -/
def displayEntries : List (Native × Native) → Except OperandFault (List String)
  | [] => .ok []
  | (k, v) :: rest => do
    let key ← display k
    let value ← display v
    let parts ← displayEntries rest
    return (key ++ ": " ++ value) :: parts

end

/-- The fault of a key that is not there. -/
def missing (key : Native) : OperandFault :=
  .missingKey key.display.toOption

/-- A datum as the debug log shows it: a text or a date stands for itself,
    anything else as in messages. -/
def plainDisplay : Native → Except OperandFault String
  | .text s => .ok s
  | .date d => .ok d.iso
  | n => n.display

end Native

end Stencil
