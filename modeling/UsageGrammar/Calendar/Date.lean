/-! Dates of the proleptic Gregorian calendar from year 1 to year 9999. -/

set_option autoImplicit false

namespace UsageGrammar.Calendar

structure Date where
  year : Nat
  month : Nat
  day : Nat
  deriving DecidableEq, Repr, Inhabited

def isLeap (year : Nat) : Bool :=
  year % 4 == 0 && (year % 100 != 0 || year % 400 == 0)

def daysInMonth (year month : Nat) : Nat :=
  if month = 2 then (if isLeap year then 29 else 28)
  else if [4, 6, 9, 11].contains month then 30
  else 31

def isDate (year month day : Nat) : Bool :=
  1 ≤ year && year ≤ 9999 && 1 ≤ month && month ≤ 12 && 1 ≤ day && day ≤ daysInMonth year month

def Date.of? (year month day : Nat) : Option Date :=
  if isDate year month day then some ⟨year, month, day⟩ else none

def daysBeforeYear (year : Nat) : Nat :=
  let y := year - 1
  y * 365 + y / 4 - y / 100 + y / 400

/-- The weekday of the first day of a year; Monday is 0. -/
def firstWeekday (year : Nat) : Nat :=
  daysBeforeYear year % 7

def daysInYear (year : Nat) : Nat :=
  if isLeap year then 366 else 365

/-- The month and the day of the month, given the number of days since the first of `month`. -/
def monthAndDay (year : Nat) : Nat → Nat → Nat → Nat × Nat
  | 0, month, days => (month, days + 1)
  | fuel + 1, month, days =>
    let size := daysInMonth year month
    if days < size then (month, days + 1) else monthAndDay year fuel (month + 1) (days - size)

def dayOfYear? (year : Nat) (days : Int) : Option Date :=
  let (year, days) : Nat × Int :=
    if days < 0 then (year - 1, days + daysInYear (year - 1))
    else if days < daysInYear year then (year, days)
    else (year + 1, days - daysInYear year)
  let (month, day) := monthAndDay year 12 1 days.toNat
  Date.of? year month day

/-- The Monday of week 1 as a number of days after the first day of the year: the week that holds
the first Thursday. -/
def firstWeek (year : Nat) : Int :=
  let weekday := firstWeekday year
  if weekday ≤ 3 then -(weekday : Int) else 7 - (weekday : Int)

def weeksInYear (year : Nat) : Nat :=
  if firstWeekday year = 3 || (firstWeekday year = 2 && isLeap year) then 53 else 52

def weekDate? (year week day : Nat) : Option Date :=
  if 1 ≤ year && 1 ≤ week && week ≤ weeksInYear year && 1 ≤ day && day ≤ 7 then
    dayOfYear? year (firstWeek year + (week - 1) * 7 + (day - 1))
  else none

def padded (width n : Nat) : String :=
  let digits := toString n
  "".pushn '0' (width - digits.length) ++ digits

def Date.text (d : Date) : String :=
  padded 4 d.year ++ "-" ++ padded 2 d.month ++ "-" ++ padded 2 d.day

end UsageGrammar.Calendar
