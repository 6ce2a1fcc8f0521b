/-!
# The calendar

Dates of the Gregorian calendar, carried on to all years, and their number of days since the first
of January 1970.
-/

namespace ChartLayer.Calendar

def isLeap (year : Int) : Bool := year % 4 == 0 && (year % 100 != 0 || year % 400 == 0)

def daysInMonth (year : Int) (month : Nat) : Nat :=
  if month = 2 then (if isLeap year then 29 else 28)
  else if month = 4 ∨ month = 6 ∨ month = 9 ∨ month = 11 then 30
  else 31

/-- Whether there is such a day. -/
def isDate (year : Int) (month day : Nat) : Bool :=
  1 ≤ month && month ≤ 12 && 1 ≤ day && day ≤ daysInMonth year month

/-- Days since 1970. Years are counted from March, so that a leap day is the last of its year. -/
def days (year : Int) (month day : Nat) : Int :=
  let y := if month ≤ 2 then year - 1 else year
  let monthFromMarch : Int := (month + 9) % 12
  let dayOfYear := (153 * monthFromMarch + 2) / 5 + day - 1
  365 * y + y.fdiv 4 - y.fdiv 100 + y.fdiv 400 + dayOfYear - 719468

/-- Seconds since 1970 of a day and a time in it. -/
def seconds (year : Int) (month day hour minute second : Nat) : Int :=
  days year month day * 86400 + hour * 3600 + minute * 60 + second

end ChartLayer.Calendar
