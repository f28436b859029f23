import Stencil.Number.Numeral
import Stencil.Text.Quoted

/-! # Faults of operations on native data

    Why an operation on native data has no result, and the message of each
    cause.  Inside a filter such a fault becomes an evaluation error;
    elsewhere it ends the whole rendering. -/

namespace Stencil

/-- The family of a fault. -/
inductive OperandFault.Family where
  | type
  | value
  | overflow
  | zeroDivision
  | key
  | index
  | attribute
deriving DecidableEq

/-- The causes.  Type names and shown data are kept as messages spell them. -/
inductive OperandFault where
  /-- A numeral that cannot be read or written. -/
  | numeral (cause : Numeral.Fault)
  /-- A datum that does not count as a number. -/
  | notNumber (shown : String)
  /-- A datum without items. -/
  | notIterable (type : String)
  /-- Two data that have no order between them. -/
  | unordered (left right : String)
  /-- Operands that an arithmetic operator does not take. -/
  | unsupported (operator left right : String)
  /-- A collection and another datum that cannot be joined. -/
  | notJoinable (container : String) (type : String)
  /-- A repetition by a datum that is no count. -/
  | notCount (type : String)
  /-- A datum where only an integer will do. -/
  | notIndex (type : String)
  /-- A datum without some capability. -/
  | noAttribute (type name : String)
  /-- A call with too few arguments; the names of those that are missing. -/
  | missingArguments (callee : String) (names : List String)
  /-- A call that gives an argument twice. -/
  | repeatedArgument (callee name : String)
  /-- A call with too many arguments. -/
  | excessArguments (callee : String) (least most given : Nat)
  /-- Splitting at the empty text. -/
  | emptySeparator
  /-- An integer beyond the range of floating point numbers. -/
  | integerTooLarge
  /-- A range with more than 2⁶³ - 1 members was counted. -/
  | lengthTooLarge
  /-- Integer division by zero. -/
  | divisionByZero
  /-- Floating point division by zero. -/
  | floatDivisionByZero
  /-- An integer remainder by zero. -/
  | remainderByZero
  /-- A datum that cannot be indexed. -/
  | notSubscriptable (type : String)
  /-- An index of the wrong type for a list, bytes, a text or a range. -/
  | badIndex (container : String) (type : String)
  /-- An index beyond the ends of a list, bytes, a text or a range. -/
  | outOfRange (container : String)
  /-- An integer that no list, bytes or text is long enough for. -/
  | indexTooLarge
  /-- A key that a dictionary or scope does not hold, if it can be shown. -/
  | missingKey (shown : Option String)
  /-- A datum that cannot be a key. -/
  | unhashable (type : String)
  /-- A datum that is no name. -/
  | notName (type : String)
  /-- A host filter refused its operands. -/
  | refused (family : OperandFault.Family) (message : String)

namespace OperandFault

/-- "s" after any count but one. -/
def plural (n : Nat) : String :=
  if n = 1 then "" else "s"

/-- Names in quotes, joined as in a sentence. -/
def listed : List String → String
  | [] => ""
  | [a] => "'" ++ a ++ "'"
  | [a, b] => "'" ++ a ++ "' and '" ++ b ++ "'"
  | names => String.intercalate ", " (names.dropLast.map fun a => "'" ++ a ++ "'") ++
      ", and '" ++ names.getLastD "" ++ "'"

/-- The message about a numeral. -/
def numeralMessage : Numeral.Fault → String
  | .notInteger text =>
    "invalid literal for int() with base 10: " ++ String.ofList ((Text.quoted text.toList).take 200)
  | .notDecimal text => "could not convert string to float: " ++ Text.quote text
  | .tooManyDigits count =>
    "Exceeds the limit (4300 digits) for integer string conversion: value has " ++
      toString count ++ " digits; use sys.set_int_max_str_digits() to increase the limit"
  | .tooLong =>
    "Exceeds the limit (4300 digits) for integer string conversion; " ++
      "use sys.set_int_max_str_digits() to increase the limit"

/-- How many arguments a callee takes. -/
def arity (least most : Nat) : String :=
  if least = most then toString most ++ " positional argument" ++ plural most
  else "from " ++ toString least ++ " to " ++ toString most ++ " positional arguments"

/-- The message of a fault. -/
def message : OperandFault → String
  | .numeral cause => numeralMessage cause
  | .notNumber shown => "expected a number, got " ++ shown
  | .notIterable type => "'" ++ type ++ "' object is not iterable"
  | .unordered left right =>
    "'<' not supported between instances of '" ++ left ++ "' and '" ++ right ++ "'"
  | .unsupported operator left right =>
    "unsupported operand type(s) for " ++ operator ++ ": '" ++ left ++ "' and '" ++ right ++ "'"
  | .notJoinable "bytes" type => "can't concat " ++ type ++ " to bytes"
  | .notJoinable container type =>
    "can only concatenate " ++ container ++ " (not \"" ++ type ++ "\") to " ++ container
  | .notCount type => "can't multiply sequence by non-int of type '" ++ type ++ "'"
  | .notIndex type => "'" ++ type ++ "' object cannot be interpreted as an integer"
  | .noAttribute type name => "'" ++ type ++ "' object has no attribute '" ++ name ++ "'"
  | .missingArguments callee names =>
    callee ++ "() missing " ++ toString names.length ++ " required positional argument" ++
      plural names.length ++ ": " ++ listed names
  | .repeatedArgument callee name =>
    callee ++ "() got multiple values for argument '" ++ name ++ "'"
  | .excessArguments callee least most given =>
    callee ++ "() takes " ++ arity least most ++ " but " ++ toString given ++
      (if given = 1 then " was given" else " were given")
  | .emptySeparator => "empty separator"
  | .integerTooLarge => "int too large to convert to float"
  | .lengthTooLarge => "Python int too large to convert to C ssize_t"
  | .divisionByZero => "integer division or modulo by zero"
  | .floatDivisionByZero => "float floor division by zero"
  | .remainderByZero => "integer modulo by zero"
  | .notSubscriptable type => "'" ++ type ++ "' object is not subscriptable"
  | .badIndex "str" type => "string indices must be integers, not '" ++ type ++ "'"
  | .badIndex "bytes" type => "byte indices must be integers or slices, not " ++ type
  | .badIndex container type =>
    container ++ " indices must be integers or slices, not " ++ type
  | .outOfRange "bytes" => "index out of range"
  | .outOfRange container => container ++ " index out of range"
  | .indexTooLarge => "cannot fit 'int' into an index-sized integer"
  | .missingKey (some shown) => shown
  | .missingKey none => numeralMessage .tooLong
  | .unhashable type => "unhashable type: '" ++ type ++ "'"
  | .notName type => "Scope key must be a str, not <class '" ++ type ++ "'>"
  | .refused _ message => message

/-- The family of a fault. -/
def family : OperandFault → Family
  | .numeral _ | .emptySeparator => .value
  | .integerTooLarge | .lengthTooLarge => .overflow
  | .divisionByZero | .floatDivisionByZero | .remainderByZero => .zeroDivision
  | .missingKey (some _) => .key
  | .missingKey none => .value
  | .outOfRange _ | .indexTooLarge => .index
  | .noAttribute _ _ => .attribute
  | .refused family _ => family
  | .notNumber _ | .notIterable _ | .unordered _ _ | .unsupported _ _ _
  | .notJoinable _ _ | .notCount _ | .notIndex _
  | .missingArguments _ _ | .repeatedArgument _ _ | .excessArguments _ _ _ _
  | .notSubscriptable _
  | .badIndex _ _ | .unhashable _ | .notName _ => .type

end OperandFault

end Stencil
