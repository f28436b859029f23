import Stencil.Native.Display

/-! # Printed data

    The text that a datum leaves in the output.  Nil prints nothing, lists,
    bytes and ranges print their members one after another, and
    dictionaries print their entries in braces.  The keys and values of a dictionary are
    inspected: a text stands in double quotes, and nil has a name. -/

namespace Stencil.Native

mutual

/-- The text of a datum, printed or inspected. -/
def printAs (inspected : Bool) : Native → Except OperandFault String
  | .nil => .ok (if inspected then "nil" else "")
  | .bool b => .ok (if b then "true" else "false")
  | .int n => writeInt n
  | .float d => .ok d.text
  | .text s => .ok (if inspected then "\"" ++ s ++ "\"" else s)
  | .list items => do
    let parts ← printItems items
    return String.join parts
  | .bytes bs => do
    let parts ← (octets bs).mapM writeInt
    return String.join parts
  | .dict entries => do
    let parts ← printEntries entries
    return "\x7b" ++ commaSeparated parts ++ "\x7d"
  | .range r => do
    let parts ← r.members.mapM writeInt
    return String.join parts
  | .date d => .ok d.iso
  | .loop p => p.display

/-- The printed texts of the members of a list. -/
def printItems : List Native → Except OperandFault (List String)
  | [] => .ok []
  | a :: as => do
    let part ← printAs false a
    let parts ← printItems as
    return part :: parts

/-- The inspected entries of a dictionary. -/
def printEntries : List (Native × Native) → Except OperandFault (List String)
  | [] => .ok []
  | (k, v) :: rest => do
    let key ← printAs true k
    let value ← printAs true v
    let parts ← printEntries rest
    return (key ++ "=>" ++ value) :: parts

end

/-- The printed text of a datum. -/
def print (n : Native) : Except OperandFault String :=
  printAs false n

end Stencil.Native
