import RecordQuery.Text.Parts
import RecordQuery.Time.Instant
import RecordQuery.Number.Numeral

/-!
# Reading dates in records

A record writes an instant in one of three ways: in full with an offset from UTC, as a date and time
in UTC, or as a date. In the second and third, fields may be shorter than usual, blanks may stand in
front of a field, and years have any number of digits after a sign.
-/

namespace RecordQuery.Instant

/-- A part of a reading: the value and the text after it. -/
abbrev Part (α : Type) := Option (α × List Char)

/-- A run of at least `least` and at most `most` digits, no longer than needed. -/
def digits? (least most : Nat) (text : List Char) : Part Nat :=
  let run := (text.take most).takeWhile Char.isDigit
  if run.length < least then none
  else some (Numeral.natOfDigits run, text.drop run.length)

/-- The character `c`. -/
def mark? (c : Char) : List Char → Option (List Char)
  | d :: rest => if d = c then some rest else none
  | [] => none

/-- A fraction of a second after a point, if one follows: nanoseconds, digits after the ninth being
passed over. -/
def fraction? : List Char → Part Nat
  | '.' :: rest =>
    let run := rest.takeWhile Char.isDigit
    if run.isEmpty then none
    else
      let nine := (run ++ List.replicate 9 '0').take 9
      some (Numeral.natOfDigits nine, rest.dropWhile Char.isDigit)
  | text => some (0, text)

/-- Second 60 is the leap second after second 59. -/
def clockOf? (hour minute second nano : Nat) : Option Clock :=
  if hour < 24 && minute < 60 && second ≤ 60 then
    some ⟨hour, minute, min second 59, if second = 60 then 1000000000 + nano else nano⟩
  else none

/-- An offset from UTC in seconds: `Z`, or a sign, two digits, a colon and two digits; below one
day. -/
def offset? : List Char → Option Int
  | ['Z'] | ['z'] => some 0
  | c :: rest => do
    let sign : Int ←
      if c == '+' then some 1 else if c == '-' || c == '\u2212' then some (-1) else none
    let (hours, rest) ← digits? 2 2 rest
    let rest ← mark? ':' rest
    let (minutes, rest) ← digits? 2 2 rest
    if rest.isEmpty && hours < 24 && minutes < 60 then
      some (sign * (hours * 3600 + minutes * 60 : Nat))
    else none
  | [] => none

/-- The full form: date, `T`, `t` or a space, time, offset. -/
def readFull? (text : List Char) : Option Instant := do
  let (year, text) ← digits? 4 4 text
  let text ← mark? '-' text
  let (month, text) ← digits? 2 2 text
  let text ← mark? '-' text
  let (day, text) ← digits? 2 2 text
  let text ← mark? 'T' text <|> mark? 't' text <|> mark? ' ' text
  let (hour, text) ← digits? 2 2 text
  let text ← mark? ':' text
  let (minute, text) ← digits? 2 2 text
  let text ← mark? ':' text
  let (second, text) ← digits? 2 2 text
  let (nano, text) ← fraction? text
  let offset ← offset? text
  let date ← Date.ofFields? year month day
  let clock ← clockOf? hour minute second nano
  ofDateTime? date clock offset

/-- One or two digits after any blanks. -/
def field? (text : List Char) : Part Nat := digits? 1 2 (text.dropWhile Text.isBlank)

/-- A year after any blanks: up to four digits, or a sign and any number of digits. -/
def year? (text : List Char) : Part Int :=
  match text.dropWhile Text.isBlank with
  | '-' :: rest => (digits? 1 rest.length rest).map fun (n, rest) => (-(n : Int), rest)
  | '+' :: rest => (digits? 1 rest.length rest).map fun (n, rest) => ((n : Int), rest)
  | rest => (digits? 1 4 rest).map fun (n, rest) => ((n : Int), rest)

/-- A date and what follows it. -/
def date? (text : List Char) : Option (Date × List Char) := do
  let (year, text) ← year? text
  let text ← mark? '-' text
  let (month, text) ← field? text
  let text ← mark? '-' text
  let (day, text) ← field? text
  let date ← Date.ofFields? year month day
  return (date, text)

/-- A date, `T` and a time, in UTC. -/
def readPlain? (text : List Char) : Option Instant := do
  let (date, text) ← date? text
  let text ← mark? 'T' text
  let (hour, text) ← field? text
  let text ← mark? ':' text
  let (minute, text) ← field? text
  let text ← mark? ':' text
  let (second, text) ← field? text
  let (nano, text) ← fraction? text
  if !text.isEmpty then none
  let clock ← clockOf? hour minute second nano
  ofDateTime? date clock 0

/-- A date alone is its first instant. -/
def readDate? (text : List Char) : Option Instant := do
  let (date, text) ← date? text
  if text.isEmpty then some (midnight date) else none

/-- The instant that the whole text writes, in the first form that fits. -/
def read? (text : List Char) : Option Instant :=
  readFull? text <|> readPlain? text <|> readDate? text

end RecordQuery.Instant
