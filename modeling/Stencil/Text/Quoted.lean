import Stencil.Text.Printable

/-! # Quoted text

    The form in which messages show a text, or bytes: single quotes, unless the text
    has a single quote and no double quote; a backslash before the quote in
    use and before a backslash; escapes for line breaks, tabs and
    unprintable characters. -/

namespace Stencil.Text

/-- The single quote. -/
def singleQuote : Char := '\x27'

/-- The double quote. -/
def doubleQuote : Char := '\x22'

/-- The backslash. -/
def backslash : Char := '\x5c'

/-- `n` in lower-case hexadecimal, with leading zeros up to `width`. -/
def hex (width n : Nat) : List Char :=
  let digits := Nat.toDigits 16 n
  List.replicate (width - digits.length) '0' ++ digits

/-- One character between the quotes `quote`. -/
def quoteChar (quote c : Char) : List Char :=
  if c = quote ∨ c = backslash then [backslash, c]
  else if c = '\n' then [backslash, 'n']
  else if c = '\r' then [backslash, 'r']
  else if c = '\t' then [backslash, 't']
  else if isPrintable c then [c]
  else if c.toNat < 0x100 then backslash :: 'x' :: hex 2 c.toNat
  else if c.toNat < 0x10000 then backslash :: 'u' :: hex 4 c.toNat
  else backslash :: 'U' :: hex 8 c.toNat

/-- The quote that shows `cs` with the fewest backslashes, the single one
    if in doubt. -/
def quoteFor (cs : List Char) : Char :=
  if singleQuote ∈ cs ∧ doubleQuote ∉ cs then doubleQuote else singleQuote

/-- `cs` in quotes. -/
def quoted (cs : List Char) : List Char :=
  quoteFor cs :: cs.flatMap (quoteChar (quoteFor cs)) ++ [quoteFor cs]

/-- `quoted` on strings. -/
def quote (s : String) : String :=
  String.ofList (quoted s.toList)

/-- One byte between the quotes `quote`.  Only the codes of ASCII stand for
    their characters. -/
def quoteByte (quote : Char) (b : UInt8) : List Char :=
  if b.toNat < 0x80 then quoteChar quote (Char.ofNat b.toNat)
  else backslash :: 'x' :: hex 2 b.toNat

/-- Bytes in quotes, with a letter in front. -/
def quoteBytes (bs : List UInt8) : String :=
  let quote := quoteFor (bs.map fun b => Char.ofNat b.toNat)
  String.ofList ('b' :: quote :: bs.flatMap (quoteByte quote) ++ [quote])

end Stencil.Text
