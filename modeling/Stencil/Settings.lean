import Stencil.Number.Numeral
import Stencil.Text.Casing

/-! # Settings

    What the environment decides: how many items a loop may have, whether
    undefined filters are errors, and whether a debug log is written. -/

namespace Stencil

/-- The settings of an engine.  A limit that is absent or not positive is no
    limit. -/
structure Settings where
  maxLoopItems : Option Int
  strictFilters : Bool
  debug : Bool

namespace Settings

/-- The most items of a loop, where nothing else is said. -/
def defaultMaxLoopItems : Int := 100000

/-- The settings where nothing is said. -/
def standard : Settings :=
  ⟨some defaultMaxLoopItems, true, false⟩

/-- May a loop have this many items? -/
def allows (limit : Option Int) (count : Nat) : Bool :=
  match limit with
  | some n => n ≤ 0 || count ≤ n
  | none => true

/-! ## Environment variables -/

/-- The words that turn a switch off. -/
def offWords : List String :=
  ["", "0", "false", "no", "off"]

/-- A switch in the environment: on, unless it holds a word that turns it
    off. -/
def switch (environment : List (String × String)) (name : String) (fallback : Bool) : Bool :=
  match environment.lookup name with
  | some raw => !offWords.contains (String.ofList (Text.lower (Text.trim raw.toList)))
  | none => fallback

/-- A number in the environment; the fallback if it cannot be read. -/
def count (environment : List (String × String)) (name : String) (fallback : Int) : Int :=
  match environment.lookup name with
  | some raw => (Numeral.readInt raw).toOption.getD fallback
  | none => fallback

/-- The settings that an environment asks for. -/
def ofEnvironment (environment : List (String × String)) : Settings :=
  ⟨some (count environment "DRIP_MAX_LOOP_ITERS" defaultMaxLoopItems),
    switch environment "DRIP_STRICT_FILTERS" true,
    switch environment "DRIP_DEBUG" false⟩

end Settings

end Stencil
