/-! # Hexadecimal digits

    Codes of characters are written in hexadecimal, with letters of either
    case. -/

namespace Stencil.Text

/-- The value of a hexadecimal digit. -/
def hexDigit? (c : Char) : Option Nat :=
  if c.isDigit then some (c.toNat - 0x30)
  else if 'a' ≤ c ∧ c ≤ 'f' then some (c.toNat - 0x61 + 10)
  else if 'A' ≤ c ∧ c ≤ 'F' then some (c.toNat - 0x41 + 10)
  else none

/-- The number that `count` hexadecimal digits at the head denote. -/
def hexCode? (count : Nat) (cs : List Char) : Option Nat :=
  if (cs.take count).length = count then
    (cs.take count).foldlM (fun n c => (hexDigit? c).map (16 * n + ·)) 0
  else none

/-- The character of a code.  Halves of pairs are no characters. -/
def charOfCode? (code : Nat) : Option Char :=
  if code.isValidChar then some (Char.ofNat code) else none

/-- The character of a pair, from the codes of its halves. -/
def charOfPair? (high low : Nat) : Option Char :=
  if 0xD800 ≤ high ∧ high < 0xDC00 ∧ 0xDC00 ≤ low ∧ low < 0xE000 then
    some (Char.ofNat (0x10000 + (high - 0xD800) * 0x400 + (low - 0xDC00)))
  else none

end Stencil.Text
