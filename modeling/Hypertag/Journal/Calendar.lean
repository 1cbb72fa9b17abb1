import Hypertag.Text.Basic

/-!
# Calendar

Seconds since the start of 1970 as a date and time of day in the Gregorian calendar, without leap
seconds and in universal time.
-/

namespace Hypertag

structure Moment where
  /-- Since the start of 1970. -/
  seconds : Int
  year : Int
  month : Nat
  day : Nat
  hour : Nat
  minute : Nat
  second : Nat
  /-- From Sunday, which is zero. -/
  weekday : Nat
  /-- From one. -/
  yearDay : Nat
  deriving DecidableEq, Repr

namespace Moment

/-- Days before a month in a year that begins with March. -/
def daysBefore (month : Nat) : Nat := (153 * month + 2) / 5

/-- Day zero is 1970-01-01. Years are counted from March, so that the day added in some years comes
last, in cycles of 400 years with 146097 days. -/
def ofDays (days : Int) : Int × Nat × Nat :=
  let shifted := days + 719468
  let cycle := shifted / 146097
  let inCycle := (shifted % 146097).toNat
  let year :=
    (inCycle - inCycle / 1460 + inCycle / 36524 - inCycle / 146096) / 365
  let inYear := inCycle - (365 * year + year / 4 - year / 100)
  let march := (5 * inYear + 2) / 153
  let day := inYear - daysBefore march + 1
  let month := if march < 10 then march + 3 else march - 9
  let year := (year : Int) + cycle * 400 + (if month ≤ 2 then 1 else 0)
  (year, month, day)

def isLeap (year : Int) : Bool := year % 4 == 0 && (year % 100 != 0 || year % 400 == 0)

def monthLengths (year : Int) : List Nat :=
  [31, if isLeap year then 29 else 28, 31, 30, 31, 30, 31, 31, 30, 31, 30, 31]

def ofSeconds (seconds : Int) : Moment :=
  let days := seconds / 86400
  let inDay := (seconds % 86400).toNat
  let (year, month, day) := ofDays days
  ⟨seconds, year, month, day, inDay / 3600, inDay / 60 % 60, inDay % 60, ((days + 4) % 7).toNat,
    ((monthLengths year).take (month - 1)).foldr (· + ·) 0 + day⟩

def weekdayNames : List Text :=
  ["Sunday", "Monday", "Tuesday", "Wednesday", "Thursday", "Friday", "Saturday"]

def monthNames : List Text :=
  ["January", "February", "March", "April", "May", "June", "July", "August", "September",
    "October", "November", "December"]

def hour12 (m : Moment) : Nat := if m.hour % 12 = 0 then 12 else m.hour % 12

def halfDay (m : Moment) : Text := if m.hour < 12 then "AM" else "PM"

def weekdayName (m : Moment) : Text := weekdayNames.getD m.weekday []

def monthName (m : Moment) : Text := monthNames.getD (m.month - 1) []

/-! ## Weeks -/

/-- From Monday, which is one. -/
def isoWeekday (m : Moment) : Nat := if m.weekday = 0 then 7 else m.weekday

/-- Full weeks of the year so far, when weeks begin `late` days after Sunday. -/
def weekFrom (m : Moment) (late : Nat) : Nat :=
  (m.yearDay + 6 - (m.weekday + 7 - late) % 7) / 7

/-- The weekday of the last day of a year, from Sunday. -/
def lastWeekday (year : Int) : Nat := ((year + year / 4 - year / 100 + year / 400) % 7).toNat

/-- A year of 53 weeks ends on a Thursday, or on a Friday that the added day makes one later. -/
def weeksOf (year : Int) : Nat :=
  if lastWeekday year = 4 || lastWeekday (year - 1) = 3 then 53 else 52

/-- The year and number of the week, which belongs to the year that has its Thursday. -/
def isoWeek (m : Moment) : Int × Nat :=
  let week := (m.yearDay + 10 - m.isoWeekday) / 7
  if week = 0 then (m.year - 1, weeksOf (m.year - 1))
  else if weeksOf m.year < week then (m.year + 1, 1)
  else (m.year, week)

end Moment

end Hypertag
