import StatementWalk.Fault

/-!
# Calendar dates

Dates of the proleptic Gregorian calendar in the years 1 to 9999. Days are also counted from the
first day of year 1, which has number one.
-/

namespace StatementWalk

namespace Calendar

def isLeap (year : Nat) : Bool := year % 4 == 0 && (year % 100 != 0 || year % 400 == 0)

def daysInMonth (year month : Nat) : Nat :=
  if month = 2 then if isLeap year then 29 else 28
  else if month = 4 ∨ month = 6 ∨ month = 9 ∨ month = 11 then 30 else 31

/-- Whether three numbers are a day of the calendar. -/
def isDate (year month day : Nat) : Bool :=
  decide (1 ≤ year ∧ year ≤ 9999) && decide (1 ≤ month ∧ month ≤ 12) &&
    decide (1 ≤ day ∧ day ≤ daysInMonth year month)

def daysBeforeYear (year : Nat) : Nat :=
  let y := year - 1
  y * 365 + y / 4 - y / 100 + y / 400

def daysBeforeMonth (year : Nat) : Nat → Nat
  | 0 => 0
  | 1 => 0
  | m + 1 => daysBeforeMonth year m + daysInMonth year m

def dayNumber (year month day : Nat) : Nat :=
  daysBeforeYear year + daysBeforeMonth year month + day

/-- The day of the week, Monday being zero. -/
def weekday (year month day : Nat) : Nat := (dayNumber year month day + 6) % 7

/-- Finds the month of a day counted from the start of its year, and the day in that month. -/
def monthOfDay (year : Nat) : List Nat → Nat → Nat × Nat
  | [], n => (12, n + 1)
  | m :: rest, n =>
    if n < daysInMonth year m then (m, n + 1) else monthOfDay year rest (n - daysInMonth year m)

/-- The year, month and day of a day number, also past the last year. -/
def ofDayNumber (number : Nat) : Nat × Nat × Nat :=
  let n := number - 1
  let (n400, n) := (n / 146097, n % 146097)
  let (n100, n) := (n / 36524, n % 36524)
  let (n4, n) := (n / 1461, n % 1461)
  let (n1, n) := (n / 365, n % 365)
  let year := n400 * 400 + n100 * 100 + n4 * 4 + n1 + 1
  if n1 = 4 ∨ n100 = 4 then (year - 1, 12, 31)
  else
    let (month, day) := monthOfDay year [1, 2, 3, 4, 5, 6, 7, 8, 9, 10, 11, 12] n
    (year, month, day)

/-- The number of the Monday of a year's first week: the week with the first Thursday. -/
def firstMonday (year : Nat) : Nat :=
  let first := dayNumber year 1 1
  let w := weekday year 1 1
  if 3 < w then first - w + 7 else first - w

/-- Years with a week 53 start on a Thursday, or on a Wednesday when they are leap years. -/
def hasLongYear (year : Nat) : Bool :=
  weekday year 1 1 == 3 || (weekday year 1 1 == 2 && isLeap year)

/-- The year, month and day of a day of a week. Year zero lies before the first day, so that its
weeks have no month. -/
def ofWeek? (year week day : Nat) : Option (Nat × Nat × Nat) :=
  if week = 0 ∨ 53 < week ∨ (week = 53 ∧ (year = 0 ∨ !hasLongYear year)) then none
  else if day = 0 ∨ 7 < day then none
  else if year = 0 then some (1, 0, day)
  else some (ofDayNumber (firstMonday year + (week - 1) * 7 + (day - 1)))

/-- A number in decimal digits, with zeros in front up to a width. -/
def padded (width n : Nat) : String :=
  let ds := (toString n).toList
  String.ofList (List.replicate (width - ds.length) '0' ++ ds)

end Calendar

open Calendar

structure Date where
  year : Nat
  month : Nat
  day : Nat
  valid : isDate year month day = true
deriving DecidableEq, Repr

namespace Date

instance : Inhabited Date := ⟨⟨1, 1, 1, by decide⟩⟩

/-- The date with the given fields. The first field out of range is reported. -/
def ofFields (year month day : Nat) : Except Fault Date :=
  if h : isDate year month day = true then .ok ⟨year, month, day, h⟩
  else if year < 1 ∨ 9999 < year then
    .error (.badValue ("year " ++ toString year ++ " is out of range"))
  else if month < 1 ∨ 12 < month then .error (.badValue "month must be in 1..12")
  else .error (.badValue "day is out of range for month")

def text (d : Date) : String :=
  padded 4 d.year ++ "-" ++ padded 2 d.month ++ "-" ++ padded 2 d.day

end Date

end StatementWalk
