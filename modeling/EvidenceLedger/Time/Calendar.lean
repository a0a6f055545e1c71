/-!
# The calendar

The proleptic Gregorian calendar, which carries today's rule for leap years back before its
introduction and through the year zero. Days are counted from the first day of 1970.

Both directions reckon in years that begin in March, so that a leap day is the last day of
its year. Four centuries have 146097 days, whatever century they start in; within them a
century has 36524 days but the last, a group of four years 1461 but the last of a century,
and a year 365 but the last of a group. From March on the months follow the pattern of 153
days in five months.
-/

namespace EvidenceLedger.Calendar

/-- A date: a year of any sign, a month from 1 to 12, a day from 1 on. -/
structure Date where
  year : Int
  month : Nat
  day : Nat
deriving DecidableEq, Repr

def isLeapYear (year : Int) : Bool :=
  year % 4 == 0 && (year % 100 != 0 || year % 400 == 0)

def daysInMonth (year : Int) (month : Nat) : Nat :=
  match month with
  | 2 => if isLeapYear year then 29 else 28
  | 4 | 6 | 9 | 11 => 30
  | _ => 31

namespace Date

def isValid (date : Date) : Bool :=
  1 ≤ date.month && date.month ≤ 12 && 1 ≤ date.day && date.day ≤ daysInMonth date.year date.month

/-- Days in four centuries. -/
def daysPerCycle : Int := 146097

/-- Days from the first of March of the year zero to the first day of 1970. -/
def epochOffset : Int := 719468

/-- The number of days from the first day of 1970 to a date. -/
def toDays (date : Date) : Int :=
  let year := if date.month ≤ 2 then date.year - 1 else date.year
  let month := if date.month ≤ 2 then date.month + 9 else date.month - 3
  let ofCycle := (year % 400).toNat
  let dayOfYear := (153 * month + 2) / 5 + (date.day - 1)
  let dayOfCycle := 365 * ofCycle + ofCycle / 4 - ofCycle / 100 + dayOfYear
  year / 400 * daysPerCycle + dayOfCycle - epochOffset

/-- The date that is `days` days after the first day of 1970. -/
def ofDays (days : Int) : Date :=
  let shifted := days + epochOffset
  let dayOfCycle := (shifted % daysPerCycle).toNat
  let century := min (dayOfCycle / 36524) 3
  let dayOfCentury := dayOfCycle - 36524 * century
  let group := dayOfCentury / 1461
  let dayOfGroup := dayOfCentury % 1461
  let yearOfGroup := min (dayOfGroup / 365) 3
  let dayOfYear := dayOfGroup - 365 * yearOfGroup
  let month := (5 * dayOfYear + 2) / 153
  let day := dayOfYear - (153 * month + 2) / 5 + 1
  let year := shifted / daysPerCycle * 400 + (100 * century + 4 * group + yearOfGroup : Nat)
  if month < 10 then ⟨year, month + 3, day⟩ else ⟨year + 1, month - 9, day⟩

end Date

example : (Date.ofDays 0) = ⟨1970, 1, 1⟩ := by decide

example : (Date.toDays ⟨2000, 2, 29⟩) = 11016 := by decide

end EvidenceLedger.Calendar
