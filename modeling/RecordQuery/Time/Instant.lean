import RecordQuery.Time.Calendar

/-!
# Instants

An instant is a whole second of UTC and the nanoseconds past it. A leap second is counted as the
second billion of nanoseconds of the second before it, so it comes after all of that second and
before the next one.
-/

namespace RecordQuery

structure Instant where
  /-- Whole seconds from 1970-01-01T00:00:00Z. -/
  second : Int
  /-- Nanoseconds past the second; a billion or more in a leap second. -/
  nano : Nat
  nano_lt : nano < 2000000000 := by omega
  deriving DecidableEq, Repr

/-- A time of day. -/
structure Clock where
  hour : Nat
  minute : Nat
  second : Nat
  /-- Nanoseconds past the second; a billion or more in a leap second. -/
  nano : Nat
  deriving DecidableEq, Repr

/-- The clock shows a time of the day, with a leap second only where the minute ends. -/
def Clock.isValid (t : Clock) : Bool :=
  t.hour < 24 && t.minute < 60 && t.second < 60 &&
    (t.nano < 1000000000 || (t.second == 59 && t.nano < 2000000000))

namespace Instant

/-- The place of an instant on one scale of nanoseconds with room for a leap second after each
second. -/
def place (x : Instant) : Int := x.second * 2000000000 + x.nano

def compare (x y : Instant) : Ordering := Ord.compare x.place y.place

/-- The instant `offset` seconds before the date and time, as clocks show that are ahead of UTC by
`offset`. -/
def ofDateTime? (d : Date) (t : Clock) (offset : Int) : Option Instant :=
  if h : t.isValid = true then
    some {
      second := d.dayNumber * 86400 + (t.hour * 3600 + t.minute * 60 + t.second : Nat) - offset
      nano := t.nano
      nano_lt := by simp [Clock.isValid] at h; omega }
  else none

/-- The first instant of a date in UTC. -/
def midnight (d : Date) : Instant := { second := d.dayNumber * 86400, nano := 0 }

/-- The last millisecond before the start of a date in UTC. -/
def beforeMidnight (d : Date) : Instant := { second := d.dayNumber * 86400 - 1, nano := 999000000 }

/-- The instant a number of milliseconds from 1970-01-01T00:00:00Z, in the range of years. -/
def ofMillis? (ms : Int) : Option Instant :=
  let x : Instant := { second := ms / 1000, nano := (ms % 1000).toNat * 1000000 }
  if Date.yearInRange (Date.ofDayNumber (x.second / 86400)).year then some x else none

/-- Decimal digits with zeros in front, at least `width` of them. -/
def padded (width n : Nat) : List Char :=
  let digits := Nat.toDigits 10 n
  List.replicate (width - digits.length) '0' ++ digits

/-- A year in four digits, with its sign if it is not one of 0 to 9999. -/
def yearText (year : Int) : List Char :=
  if 0 ≤ year && year ≤ 9999 then padded 4 year.toNat
  else (if year < 0 then '-' else '+') :: padded 4 year.natAbs

/-- The instant in UTC to the millisecond, any finer part cut off, as `2024-01-31T12:00:00.000Z`. A
leap second shows as second 60. -/
def format (x : Instant) : String :=
  let d := Date.ofDayNumber (x.second / 86400)
  let s := (x.second % 86400).toNat
  String.ofList <|
    yearText d.year ++ '-' :: padded 2 d.month ++ '-' :: padded 2 d.day ++
    'T' :: padded 2 (s / 3600) ++ ':' :: padded 2 (s / 60 % 60) ++
    ':' :: padded 2 (s % 60 + x.nano / 1000000000) ++
    '.' :: padded 3 (x.nano % 1000000000 / 1000000) ++ ['Z']

end Instant

end RecordQuery
