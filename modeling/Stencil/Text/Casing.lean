import Stencil.Text.Casing.Table
import Stencil.Text.Word

/-! # Letter case

    Upper, lower and capitalised text, by the full mappings: one character
    may become several, and a capital sigma at the end of a word becomes a
    final sigma. -/

namespace Stencil.Text

/-! ## Single characters -/

/-- The image of `n` under the first run that covers it, `n` itself otherwise. -/
def mapRuns (runs : List CaseRun) (n : Nat) : Nat :=
  (runs.findSome? (·.image? n)).getD n

/-- The upper case of one character. -/
def upperChar (c : Char) : List Char :=
  if c.toNat < 128 then [c.toUpper]
  else match upperExpansions.lookup c.toNat with
    | some ns => ns.map Char.ofNat
    | none => [Char.ofNat (mapRuns upperRuns c.toNat)]

/-- The title case of one character: its form at the head of a word. -/
def titleChar (c : Char) : List Char :=
  if c.toNat < 128 then [c.toUpper]
  else match titleExceptions.lookup c.toNat with
    | some ns => ns.map Char.ofNat
    | none => upperChar c

/-- The lower case of one character, its surroundings aside. -/
def lowerChar (c : Char) : List Char :=
  if c.toNat < 128 then [c.toLower]
  else if c.toNat = 0x130 then ['i', Char.ofNat 0x307]
  else [Char.ofNat (mapRuns lowerRuns c.toNat)]

/-! ## The final sigma -/

/-- Is the first character that is not passed over a cased one? -/
def reachesCased (cs : List Char) : Bool :=
  match cs.find? fun c => !inIntervals caseIgnorableIntervals c.toNat with
  | some c => inIntervals casedIntervals c.toNat
  | none => false

/-- A capital sigma takes the final form after a cased character, unless
    another one follows.  `before` lists the preceding characters, the
    nearest first. -/
def lowerSigma (before after : List Char) : Char :=
  if reachesCased before && !reachesCased after then 'ς' else 'σ'

/-- Lower case of `cs`, standing after `before` (nearest first). -/
def lowerAfter (before : List Char) : List Char → List Char
  | [] => []
  | c :: cs =>
    (if c = 'Σ' then [lowerSigma before cs] else lowerChar c) ++ lowerAfter (c :: before) cs

/-! ## Text -/

/-- Upper case. -/
def upper (cs : List Char) : List Char :=
  cs.flatMap upperChar

/-- Lower case. -/
def lower (cs : List Char) : List Char :=
  lowerAfter [] cs

/-- The first character in title case and the rest in lower case. -/
def capitalize : List Char → List Char
  | [] => []
  | c :: cs => titleChar c ++ lowerAfter [c] cs

end Stencil.Text
