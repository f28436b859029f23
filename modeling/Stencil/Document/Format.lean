import Stencil.Document.Fault
import Stencil.Document.Path
import Stencil.Native.Basic
import Stencil.Text.Casing

/-! # Formats of documents

    A document is JSON or YAML.  The suffix of its file decides, and where
    that says nothing, the first character.  What is no JSON may still be
    YAML.  The formats themselves are not part of the command line, so their
    readers are handed to whatever reads a document. -/

namespace Stencil

/-- The formats. -/
inductive Format where
  | json
  | yaml
deriving DecidableEq

/-- What reads the texts of each format: the datum that a text denotes, or why
    it denotes none. -/
structure Readers where
  json : String → Except DocumentFault Native
  yaml : String → Except DocumentFault Native

namespace Format

/-- The name of a format. -/
def name : Format → String
  | .json => "json"
  | .yaml => "yaml"

/-- The format with a name. -/
def ofName? (name : String) : Option Format :=
  [json, yaml].find? fun f => f.name = name

/-- The suffixes that tell a format, in lower case. -/
def suffixes : List (String × Format) :=
  [(".json", json), (".yaml", yaml), (".yml", yaml)]

/-- The format that the suffix of a path tells. -/
def ofPath? (path : String) : Option Format :=
  suffixes.lookup
    (String.ofList (Text.lower (Path.suffix (Path.fileName path)).toList))

/-- The format that a text looks like: a bracket or brace at its start
    means JSON. -/
def ofText (text : String) : Format :=
  match Text.trimStart text.toList with
  | c :: _ => if c = '[' ∨ c = '\x7b' then json else yaml
  | [] => yaml

/-- The format of a file, by its path or else by its text. -/
def detect? (path : Option String) (text : Option String) : Option Format :=
  (path.bind ofPath?) <|> text.map ofText

/-- Reads a text of a format.  A text that is no JSON is taken for YAML. -/
def read (readers : Readers) (text : String) : Format → Except DocumentFault Native
  | .json =>
    match readers.json text with
    | .error .malformed => readers.yaml text
    | result => result
  | .yaml => readers.yaml text

end Format

end Stencil
