import Stencil.Native.Display
import Stencil.Sorting.Runs

/-! # Sorting native data

    Sorting is stable and ascending.  Only data of comparable types have an
    order, and the first pair that is compared and has none ends the
    sorting. -/

namespace Stencil.Native

/-! ## Section 1: The order -/

mutual

/-- Does the first datum come before the second?  Numbers and booleans are
    ordered by value, texts by code points, dates by day, and lists and
    bytes by the first items that are not the same. -/
def before : Native → Native → Except OperandFault Bool
  | .text a, .text b => .ok (a < b)
  | .date a, .date b =>
    .ok (a.year < b.year || (a.year = b.year &&
      (a.month < b.month || (a.month = b.month && a.day < b.day))))
  | .list as, .list bs => beforeItems as bs
  | .bytes a, .bytes b => .ok (decide (octets a < octets b))
  | a, b =>
    match a.number?, b.number? with
    | some m, some n => .ok (Number.less m n)
    | _, _ => .error (.unordered a.typeName b.typeName)

/-- Do the items of the first list come before those of the second? -/
def beforeItems : List Native → List Native → Except OperandFault Bool
  | a :: as, b :: bs => if same a b then beforeItems as bs else before a b
  | [], _ :: _ => .ok true
  | _, [] => .ok false

end

/-! ## Section 2: Sorting -/

/-- The items in ascending order. -/
def sort (items : List Native) : Except OperandFault (List Native) :=
  Sorting.sort before items

end Stencil.Native
