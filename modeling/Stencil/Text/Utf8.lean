/-! # Reading UTF-8

    Decoding of bytes, with the position and the cause of the first fault:
    a byte that starts no character, a sequence that breaks off before its
    last byte, or the end of the data inside a sequence. -/

namespace Stencil.Text.Utf8

/-- Why bytes are no UTF-8. -/
inductive Cause where
  | invalidStart
  | invalidContinuation
  | unexpectedEnd
deriving DecidableEq

/-- The first fault: its cause, the position of its first byte, that byte,
    and the number of bytes it spans. -/
structure Fault where
  cause : Cause
  position : Nat
  byte : Nat
  length : Nat
deriving DecidableEq

/-- The text of a cause. -/
def Cause.text : Cause → String
  | .invalidStart => "invalid start byte"
  | .invalidContinuation => "invalid continuation byte"
  | .unexpectedEnd => "unexpected end of data"

/-- A byte in hexadecimal. -/
def hexByte (b : Nat) : String :=
  String.ofList (Nat.toDigits 16 (b / 16) ++ Nat.toDigits 16 (b % 16))

/-- The message of a fault. -/
def Fault.message (f : Fault) : String :=
  "'utf-8' codec can't decode " ++
    (if f.length = 1 then "byte 0x" ++ hexByte f.byte ++ " in position " ++ toString f.position
     else "bytes in position " ++ toString f.position ++ "-" ++
      toString (f.position + f.length - 1)) ++
    ": " ++ f.cause.text

/-- How many bytes a sequence has that starts with `b`, the interval of its
    second byte, and what the first byte contributes. -/
def lead? (b : Nat) : Option (Nat × Nat × Nat × Nat) :=
  if b < 0xC2 then none
  else if b < 0xE0 then some (1, 0x80, 0xBF, b - 0xC0)
  else if b = 0xE0 then some (2, 0xA0, 0xBF, 0)
  else if b = 0xED then some (2, 0x80, 0x9F, 0xD)
  else if b < 0xF0 then some (2, 0x80, 0xBF, b - 0xE0)
  else if b = 0xF0 then some (3, 0x90, 0xBF, 0)
  else if b = 0xF4 then some (3, 0x80, 0x8F, 4)
  else if b < 0xF4 then some (3, 0x80, 0xBF, b - 0xF0)
  else none

/-- Reads `count` more bytes of a sequence, the first of them between `low`
    and `high`.  On failure, tells the cause and how many bytes were good. -/
def continuation (code : Nat) : Nat → Nat → Nat → List Nat → Except (Cause × Nat) Nat
  | 0, _, _, _ => .ok code
  | _ + 1, _, _, [] => .error (.unexpectedEnd, 0)
  | count + 1, low, high, b :: bs =>
    if low ≤ b ∧ b ≤ high then
      (continuation (code * 64 + (b - 0x80)) count 0x80 0xBF bs).mapError
        fun (cause, good) => (cause, good + 1)
    else .error (.invalidContinuation, 0)

/-- Decodes bytes that start at `position`; `skip` of them belong to the last
    character. -/
def decodeFrom (position : Nat) : Nat → List Nat → Except Fault (List Char)
  | _, [] => .ok []
  | skip + 1, _ :: bs => decodeFrom (position + 1) skip bs
  | 0, b :: bs =>
    if b < 0x80 then (decodeFrom (position + 1) 0 bs).map (Char.ofNat b :: ·)
    else match lead? b with
      | none => .error ⟨.invalidStart, position, b, 1⟩
      | some (count, low, high, code) =>
        match continuation code count low high bs with
        | .ok n => (decodeFrom (position + 1) count bs).map (Char.ofNat n :: ·)
        | .error (cause, good) => .error ⟨cause, position, b, good + 1⟩

/-- Decodes bytes. -/
def decode (bytes : List Nat) : Except Fault (List Char) :=
  decodeFrom 0 0 bytes

/-- Carriage returns, alone or before a line feed, become line feeds. -/
def unifyBreaks : List Char → List Char
  | [] => []
  | '\r' :: '\n' :: cs => '\n' :: unifyBreaks cs
  | '\r' :: cs => '\n' :: unifyBreaks cs
  | c :: cs => c :: unifyBreaks cs

/-- The text of a file: decoded bytes with unified line breaks. -/
def readText (bytes : List Nat) : Except Fault String :=
  (decode bytes).map fun cs => String.ofList (unifyBreaks cs)

end Stencil.Text.Utf8
