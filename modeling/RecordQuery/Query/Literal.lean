import RecordQuery.Number.Numeral
import RecordQuery.Time.Instant

/-!
# Literals

The value of a comparison is a numeral or a calendar date. It is told by its shape first: text that
has the shape of one or the other but names no value, such as the thirteenth month, is malformed
and not a plain word. Four digits are a year.
-/

namespace RecordQuery

/-- A span of time, with its first and its last millisecond. -/
structure Period where
  first : Instant
  last : Instant
  /-- Whether a time of day was given, so that the span is one instant. -/
  timed : Bool
  deriving DecidableEq

inductive Literal where
  | number (x : Number)
  | period (p : Period)
  deriving DecidableEq

namespace Literal

/-- What text is as a literal. -/
inductive Reading where
  | valid (l : Literal)
  /-- The shape of a literal, but no value. -/
  | malformed
  | neither
  deriving DecidableEq

/-- A character of a numeral or date. -/
def isLiteralChar (c : Char) : Bool :=
  c.isDigit || c == '-' || c == '+' || c == ':' || c == '.' || c == 'T' || c == 't' || c == 'Z' ||
    c == 'z'

/-! ## Shapes -/

/-- An offset from UTC as written. -/
structure Offset where
  west : Bool
  hours : Nat
  minutes : Nat
  deriving DecidableEq, Repr

/-- The fields of a date as written. -/
inductive Shape where
  | year (year : Nat)
  | month (year month : Nat)
  | day (year month day : Nat)
  | time (year month day : Nat) (clock : Clock) (offset : Offset)
  deriving DecidableEq, Repr

/-- Exactly `count` digits, and the rest. -/
def digits? (count : Nat) (text : List Char) : Option (Nat × List Char) :=
  let run := text.take count
  if run.length = count && run.all Char.isDigit then
    some (Numeral.natOfDigits run, text.drop count)
  else none

/-- No offset, `Z`, or a sign with hours, and minutes with or without a colon. -/
def offset? : List Char → Option Offset
  | [] | ['Z'] | ['z'] => some ⟨false, 0, 0⟩
  | c :: rest =>
    if c = '+' || c = '-' then do
      let (hours, rest) ← digits? 2 rest
      match rest with
      | [] => return ⟨c == '-', hours, 0⟩
      | ':' :: rest | rest =>
        let (minutes, rest) ← digits? 2 rest
        if rest.isEmpty then some ⟨c == '-', hours, minutes⟩ else none
    else none

/-- A fraction of a second in one to nine digits after a point, as nanoseconds. -/
def fraction? : List Char → Option (Nat × List Char)
  | '.' :: rest =>
    let run := rest.takeWhile Char.isDigit
    if 1 ≤ run.length && run.length ≤ 9 then
      some (Numeral.natOfDigits run * tenTo (9 - run.length), rest.dropWhile Char.isDigit)
    else none
  | rest => some (0, rest)

/-- Seconds and their fraction after a colon, zero if there is none. -/
def seconds? : List Char → Option (Nat × Nat × List Char)
  | ':' :: rest => do
    let (second, rest) ← digits? 2 rest
    let (nano, rest) ← fraction? rest
    return (second, nano, rest)
  | rest => some (0, 0, rest)

/-- The time of day and offset of a timestamp. -/
def clock? (text : List Char) : Option (Clock × Offset) := do
  let (hour, rest) ← digits? 2 text
  match rest with
  | ':' :: rest =>
    let (minute, rest) ← digits? 2 rest
    let (second, nano, rest) ← seconds? rest
    let offset ← offset? rest
    return (⟨hour, minute, second, nano⟩, offset)
  | _ => none

/-- The shape of a date: a year, a year and month, a day, or a day with a time of day. -/
def shape? (text : List Char) : Option Shape := do
  let (year, rest) ← digits? 4 text
  match rest with
  | [] => return .year year
  | '-' :: rest =>
    let (month, rest) ← digits? 2 rest
    match rest with
    | [] => return .month year month
    | '-' :: rest =>
      let (day, rest) ← digits? 2 rest
      match rest with
      | [] => return .day year month day
      | c :: rest =>
        if c = 'T' || c = 't' then
          let (clock, offset) ← clock? rest
          return .time year month day clock offset
        else none
    | _ => none
  | _ => none

/-! ## Values -/

/-- Seconds east of UTC, for minutes below an hour and a total below a day. -/
def Offset.seconds? (o : Offset) : Option Int :=
  let total : Nat := o.hours * 3600 + o.minutes * 60
  if o.minutes < 60 && total < 86400 then some (if o.west then -(total : Int) else total)
  else none

/-- The period from the start of `first` to the last millisecond before `next`. -/
def span (first next : Date) : Period :=
  ⟨Instant.midnight first, Instant.beforeMidnight next, false⟩

/-- The day after `d`. -/
def dayAfter (d : Date) : Date := Date.ofDayNumber (d.dayNumber + 1)

/-- The period that the fields name, if the calendar has it. -/
def Shape.period? : Shape → Option Period
  | .year y => do
    let first ← Date.ofFields? y 1 1
    let next ← Date.ofFields? (y + 1) 1 1
    return span first next
  | .month y m => do
    let first ← Date.ofFields? y m 1
    let next ← if m = 12 then Date.ofFields? (y + 1) 1 1 else Date.ofFields? y (m + 1) 1
    return span first next
  | .day y m d => do
    let date ← Date.ofFields? y m d
    return span date (dayAfter date)
  | .time y m d clock offset => do
    let date ← Date.ofFields? y m d
    let seconds ← offset.seconds?
    let x ← Instant.ofDateTime? date clock seconds
    return ⟨x, x, true⟩

/-- An optional sign, digits, and optionally a point and digits. -/
def isNumeral (text : List Char) : Bool :=
  let body := (Numeral.sign text).2
  let whole := body.takeWhile (· != '.')
  let fraction := (body.dropWhile (· != '.')).drop 1
  let hasPoint := body.contains '.'
  !whole.isEmpty && whole.all Char.isDigit &&
    (!hasPoint || (!fraction.isEmpty && fraction.all Char.isDigit))

/-- What the text is as a literal. -/
def classify (text : List Char) : Reading :=
  match shape? text with
  | some shape =>
    match shape.period? with
    | some p => .valid (.period p)
    | none => .malformed
  | none =>
    if isNumeral text then
      match Numeral.read? text with
      | some x => if x.isFinite then .valid (.number x) else .malformed
      | none => .malformed
    else .neither

end Literal

end RecordQuery
