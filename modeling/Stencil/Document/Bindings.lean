import Stencil.Document.Format
import Stencil.Native.Display
import Stencil.Scope.Basic
import Stencil.Text.Utf8

/-! # Files of bindings

    A file of bindings holds a document that is a mapping.  An empty
    document gives no bindings. -/

namespace Stencil

/-- Why a file gives no bindings. -/
inductive BindingsFault where
  | encoding (cause : Text.Utf8.Fault)
  | unsupportedFormat (name : String)
  | document (cause : DocumentFault)
  | notMapping (type : String)

namespace BindingsFault

/-- The message of a cause. -/
def message : BindingsFault → String
  | .encoding cause => cause.message
  | .unsupportedFormat name => "unsupported bindings format: " ++ Text.quote name
  | .document cause => cause.message
  | .notMapping type => "bindings must be a mapping, got " ++ type

/-- Is the fault one that users of a file are told about?  Malformed texts
    and numbers out of all range are none. -/
def isReported : BindingsFault → Bool
  | .document .malformed => false
  | .document .codeTooLarge => false
  | .document .unitTooLarge => false
  | _ => true

end BindingsFault

namespace Bindings

/-- Reads a text in the format with the given name; the empty name leaves
    the format to the text. -/
def readText (readers : Readers) (text : String) (format : String) :
    Except BindingsFault Native :=
  let format? := if format = "" then some (Format.ofText text) else Format.ofName? format
  match format? with
  | some f => (f.read readers text).mapError .document
  | none => .error (.unsupportedFormat format)

/-- The entries that a document gives. -/
def entriesOf : Native → Except BindingsFault (List (Native × Native))
  | .nil => .ok []
  | .dict entries => .ok entries
  | n => .error (.notMapping n.plainTypeName)

/-- The entries of the file with a name and some bytes. -/
def load (readers : Readers) (name : String) (bytes : List Nat) :
    Except BindingsFault (List (Native × Native)) := do
  let text ← (Text.Utf8.readText bytes).mapError .encoding
  let format := (Format.ofPath? name).getD (Format.ofText text)
  entriesOf (← (format.read readers text).mapError .document)

/-- The bindings among some entries.  Keys that are no texts are dropped, as no
    template can name them. -/
def ofEntries (entries : List (Native × Native)) : Bindings :=
  entries.filterMap fun (k, v) =>
    match k with
    | .text name => some (name, v)
    | _ => none

end Bindings

end Stencil
