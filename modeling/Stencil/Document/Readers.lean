import Stencil.Document.Format
import Stencil.Document.Json
import Stencil.Document.Yaml

/-! # The readers of the program

    JSON is read as a whole, YAML as far as files of bindings commonly make
    use of it. -/

namespace Stencil

/-- The readers that the program runs with. -/
def Readers.standard : Readers :=
  ⟨Json.read, Yaml.read⟩

end Stencil
