import Stencil.Native.Basic

/-! # Calendar

    The days that exist: years from 1, twelve months, and as many days as
    the month has.  There are no other dates. -/

namespace Stencil.Date

/-- Why a day does not exist. -/
inductive Fault where
  | year (year : Nat)
  | month
  | day
deriving DecidableEq

/-- The message of a cause. -/
def Fault.message : Fault → String
  | .year y => "year " ++ toString y ++ " is out of range"
  | .month => "month must be in 1..12"
  | .day => "day is out of range for month"

/-- Has the year a leap day? -/
def isLeap (year : Nat) : Bool :=
  year % 4 = 0 && (year % 100 ≠ 0 || year % 400 = 0)

/-- How many days a month has. -/
def daysIn (year month : Nat) : Nat :=
  if month = 2 then (if isLeap year then 29 else 28)
  else if month = 4 ∨ month = 6 ∨ month = 9 ∨ month = 11 then 30
  else 31

/-- The last year that dates have. -/
def lastYear : Nat := 9999

/-- The date of a day.  Year, month and day are looked at in this order. -/
def of (year month day : Nat) : Except Fault Date :=
  if year = 0 ∨ lastYear < year then .error (.year year)
  else if month = 0 ∨ 12 < month then .error .month
  else if day = 0 ∨ daysIn year month < day then .error .day
  else .ok ⟨year, month, day⟩

end Stencil.Date
