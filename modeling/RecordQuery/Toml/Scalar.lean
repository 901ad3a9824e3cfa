import RecordQuery.Number.Numeral
import RecordQuery.Time.Reading
import RecordQuery.Toml.Value

/-!
# Scalars in TOML documents

Numbers, truth values, dates and times, which are written without quotes. Integers may have up to
128 bits, and a number that is not written as infinity has to be finite.
-/

namespace RecordQuery.Toml

/-! ## Numbers -/

/-- The digits of a text of digits, with single underscores between them allowed. -/
def digits? (isDigit : Char → Bool) : List Char → Option (List Char)
  | [] => none
  | [c] => if isDigit c then some [c] else none
  | c :: '_' :: rest => if isDigit c then (digits? isDigit rest).map (c :: ·) else none
  | c :: rest => if isDigit c then (digits? isDigit rest).map (c :: ·) else none

/-- Decimal digits without a zero in front. -/
def whole? (text : List Char) : Option (List Char) := do
  let digits ← digits? Char.isDigit text
  if digits.length > 1 && digits.head? = some '0' then none else some digits

/-- The value of a hexadecimal digit, and of the digits of smaller bases. -/
def digitValue (c : Char) : Nat :=
  if c.isDigit then c.toNat - 48 else c.toLower.toNat - 87

def ofDigits (base : Nat) (digits : List Char) : Nat :=
  digits.foldl (fun n c => base * n + digitValue c) 0

def isDigitOf (base : Nat) (c : Char) : Bool :=
  (c.isDigit || ('a' ≤ c.toLower && c.toLower ≤ 'f')) && digitValue c < base

/-- An integer: decimal with an optional sign, or to the base 16, 8 or 2. -/
def integer? (text : List Char) : Option Int :=
  let inBase (base : Nat) (rest : List Char) : Option Int :=
    (digits? (isDigitOf base) rest).map fun digits => (ofDigits base digits : Nat)
  match text with
  | '0' :: 'x' :: rest => inBase 16 rest
  | '0' :: 'o' :: rest => inBase 8 rest
  | '0' :: 'b' :: rest => inBase 2 rest
  | _ =>
    let (negative, body) := Numeral.sign text
    (whole? body).map fun digits =>
      let n : Int := ofDigits 10 digits
      if negative then -n else n

def integerInRange (n : Int) : Bool :=
  -0x80000000000000000000000000000000 ≤ n && n ≤ 0xFFFFFFFFFFFFFFFFFFFFFFFFFFFFFFFF

/-- Whether the text is nothing, or an exponent. -/
def isExponent : List Char → Bool
  | [] => true
  | c :: rest => (c == 'e' || c == 'E') && (digits? Char.isDigit (Numeral.sign rest).2).isSome

/-- A fraction or an exponent or both, after whole digits. -/
def isFraction : List Char → Bool
  | '.' :: rest =>
    let inRun (c : Char) := c.isDigit || c == '_'
    (digits? Char.isDigit (rest.takeWhile inRun)).isSome && isExponent (rest.dropWhile inRun)
  | rest => isExponent rest

/-- A number with a fraction or an exponent, or the name of one that has none. -/
def float? (text : List Char) : Option Number := do
  let body := (Numeral.sign text).2
  if body = ['i', 'n', 'f'] || body = ['n', 'a', 'n'] then Numeral.read? text
  else
    let inRun (c : Char) := c.isDigit || c == '_'
    if (whole? (body.takeWhile inRun)).isSome && isFraction (body.dropWhile inRun) then
      let x ← Numeral.read? (text.filter (· != '_'))
      if x.isFinite then some x else none
    else none

/-! ## Dates and times -/

/-- What follows a date of the calendar. -/
def afterDate? (text : List Char) : Option (List Char) := do
  let (year, text) ← Instant.digits? 4 4 text
  let text ← Instant.mark? '-' text
  let (month, text) ← Instant.digits? 2 2 text
  let text ← Instant.mark? '-' text
  let (day, text) ← Instant.digits? 2 2 text
  if 1 ≤ day && day ≤ Date.monthLength year month then some text else none

/-- What follows a time of the day. -/
def afterTime? (text : List Char) : Option (List Char) := do
  let (hour, text) ← Instant.digits? 2 2 text
  let text ← Instant.mark? ':' text
  let (minute, text) ← Instant.digits? 2 2 text
  let text ← Instant.mark? ':' text
  let (second, text) ← Instant.digits? 2 2 text
  let (_, text) ← Instant.fraction? text
  if hour < 24 && minute < 60 && second ≤ 60 then some text else none

/-- A date, a time, or a date and a time with an optional offset between them and UTC. -/
def isMoment (text : List Char) : Bool :=
  match afterDate? text with
  | some [] => true
  | some (mark :: rest) =>
    (mark == 'T' || mark == 't' || mark == ' ') &&
      (afterTime? rest).any fun rest => rest.isEmpty || (Instant.offset? rest).isSome
  | none => (afterTime? text).any List.isEmpty

/-! ## All of them -/

def isTrue (text : List Char) : Bool := text = ['t', 'r', 'u', 'e']

def isFalse (text : List Char) : Bool := text = ['f', 'a', 'l', 's', 'e']

/-- The value that the whole text writes. -/
def scalar? (text : List Char) : Option Toml :=
  if isTrue text then some (.bool true)
  else if isFalse text then some (.bool false)
  else match integer? text with
    | some n => if integerInRange n then some (.integer n) else none
    | none =>
      if isMoment text then some (.moment (String.ofList text)) else (float? text).map .float

end RecordQuery.Toml
