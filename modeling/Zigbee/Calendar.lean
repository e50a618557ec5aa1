/-!
# The calendar

The lengths of the months, with leap days every fourth year, not in the years that
divide by a hundred, but in those that divide by four hundred.
-/

namespace Zigbee.Calendar

/-- Whether a year has a leap day. -/
def isLeap (y : Int) : Bool :=
  y % 4 == 0 && (y % 100 != 0 || y % 400 == 0)

/-- The number of days of a month. -/
def daysOf (y : Int) (month : Nat) : Nat :=
  if month = 2 then if isLeap y then 29 else 28
  else if [4, 6, 9, 11].contains month then 30 else 31

end Zigbee.Calendar
