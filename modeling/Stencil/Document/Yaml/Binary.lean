/-! # Bytes in base 64

    A scalar with the tag for bytes holds them in base 64.  Four digits make
    three bytes.  What is no digit is passed over, wherever it stands, but
    the signs that fill up the last group end the bytes. -/

namespace Stencil.Yaml

/-- The value of a digit. -/
def sextet? (c : Char) : Option Nat :=
  if 'A' ≤ c ∧ c ≤ 'Z' then some (c.toNat - 0x41)
  else if 'a' ≤ c ∧ c ≤ 'z' then some (c.toNat - 0x61 + 26)
  else if c.isDigit then some (c.toNat - 0x30 + 52)
  else if c = '+' then some 62
  else if c = '/' then some 63
  else none

/-- The sign that fills up the last group. -/
def padding : Char := '='

/-- The bytes of a group of digits.  The bits left over in one that is not
    full belong to no byte. -/
def groupBytes : List Nat → List UInt8
  | [a, b] => [.ofNat (4 * a + b / 16)]
  | [a, b, c] => [.ofNat (4 * a + b / 16), .ofNat (16 * (b % 16) + c / 4)]
  | [a, b, c, d] =>
    [.ofNat (4 * a + b / 16), .ofNat (16 * (b % 16) + c / 4), .ofNat (64 * (c % 4) + d)]
  | _ => []

/-- The bytes of some characters behind the digits of a group that is not
    full and the number of signs that fill it up so far.  There are none if
    the characters end within a group. -/
def bytesFrom (group : List Nat) (pads : Nat) : List Char → Option (List UInt8)
  | [] => if group.isEmpty then some [] else none
  | c :: cs =>
    if c = padding then
      if group.length < 2 then bytesFrom group pads cs
      else if group.length + pads + 1 < 4 then bytesFrom group (pads + 1) cs
      else some (groupBytes group)
    else
      match sextet? c with
      | none => bytesFrom group pads cs
      | some d =>
        if group.length < 3 then bytesFrom (group ++ [d]) 0 cs
        else (bytesFrom [] 0 cs).map (groupBytes (group ++ [d]) ++ ·)

/-- The bytes that a text in ASCII holds. -/
def bytesOf? (text : String) : Option (List UInt8) :=
  if text.toList.all (·.toNat < 0x80) then bytesFrom [] 0 text.toList else none

end Stencil.Yaml
