/-!
# Calendar dates

Dates of the Gregorian calendar, extended to all years, and their numbering by days from
1970-01-01. A year is found from a day by its mean length, which errs by at most one year.
-/

namespace RecordQuery

structure Date where
  year : Int
  month : Nat
  day : Nat
  deriving DecidableEq, Repr

namespace Date

def isLeap (year : Int) : Bool :=
  year % 4 == 0 && (year % 100 != 0 || year % 400 == 0)

/-- The lengths of the twelve months. -/
def monthLengths (year : Int) : List Nat :=
  [31, if isLeap year then 29 else 28, 31, 30, 31, 30, 31, 31, 30, 31, 30, 31]

/-- The length of a month, zero if there is none of that number. -/
def monthLength (year : Int) (month : Nat) : Nat :=
  if month = 0 then 0 else (monthLengths year).getD (month - 1) 0

/-- The years that instants may lie in. -/
def yearInRange (year : Int) : Bool := -262143 ≤ year && year ≤ 262142

/-- The date with these fields, if the calendar has it. -/
def ofFields? (year : Int) (month day : Nat) : Option Date :=
  if yearInRange year && 1 ≤ day && day ≤ monthLength year month then
    some ⟨year, month, day⟩
  else none

/-- Days from 0001-01-01 to the first day of a year. -/
def daysBeforeYear (year : Int) : Int :=
  let past := year - 1
  365 * past + past / 4 - past / 100 + past / 400

/-- Days from the first day of the year to the first day of a month. -/
def daysBeforeMonth (year : Int) (month : Nat) : Nat :=
  ((monthLengths year).take (month - 1)).foldl (· + ·) 0

/-- The day number of 1970-01-01 when 0001-01-01 is day 0. -/
def epochDay : Int := 719162

/-- Days from 1970-01-01. -/
def dayNumber (d : Date) : Int :=
  daysBeforeYear d.year + daysBeforeMonth d.year d.month + (d.day - 1 : Int) - epochDay

/-- The year that holds day `n`, counted from 0001-01-01. -/
def yearOf (n : Int) : Int :=
  let guess := 400 * n / 146097 + 1
  if daysBeforeYear (guess + 1) ≤ n then guess + 1 else guess

/-- The month, from `month` on, and the day in it, of the `n`-th day of months of these lengths. -/
def monthOf (month : Nat) : List Nat → Nat → Nat × Nat
  | [], n => (month, n + 1)
  | length :: rest, n =>
    if n < length then (month, n + 1) else monthOf (month + 1) rest (n - length)

/-- The date with a day number. -/
def ofDayNumber (n : Int) : Date :=
  let day := n + epochDay
  let year := yearOf day
  let (month, dayOfMonth) := monthOf 1 (monthLengths year) (day - daysBeforeYear year).toNat
  ⟨year, month, dayOfMonth⟩

end Date

end RecordQuery
