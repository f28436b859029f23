/-! # White space

    Which characters count as white space, and trimming.  The same set
    separates the tokens of an expression, is dropped by trim dashes, and
    is removed by the `strip` filter.  It holds the information
    separators U+001C to U+001F, and no zero-width character. -/

namespace Stencil.Text

/-- White space: the control characters from tab to carriage return, the
    four information separators, next line, and the space separators. -/
def isBlank (c : Char) : Bool :=
  (0x09 ≤ c.toNat && c.toNat ≤ 0x0D) || (0x1C ≤ c.toNat && c.toNat ≤ 0x20) ||
  c.toNat = 0x85 || c.toNat = 0xA0 || c.toNat = 0x1680 ||
  (0x2000 ≤ c.toNat && c.toNat ≤ 0x200A) || c.toNat = 0x2028 || c.toNat = 0x2029 ||
  c.toNat = 0x202F || c.toNat = 0x205F || c.toNat = 0x3000

/-! ## Trimming -/

/-- Drops the leading characters that satisfy `p`. -/
def dropLeading (p : Char → Bool) (cs : List Char) : List Char :=
  cs.dropWhile p

/-- Drops the trailing characters that satisfy `p`. -/
def dropTrailing (p : Char → Bool) (cs : List Char) : List Char :=
  (cs.reverse.dropWhile p).reverse

/-- Drops white space in front. -/
def trimStart (cs : List Char) : List Char :=
  dropLeading isBlank cs

/-- Drops white space behind. -/
def trimEnd (cs : List Char) : List Char :=
  dropTrailing isBlank cs

/-- Drops white space at both ends. -/
def trim (cs : List Char) : List Char :=
  trimEnd (trimStart cs)

/-- `trim` on strings. -/
def trimString (s : String) : String :=
  String.ofList (trim s.toList)

end Stencil.Text
