import RecordQuery.Number.Rounding

/-!
# Numerals

Reading a decimal numeral: an optional sign, then digits with an optional point and exponent, or a
name of infinity or of what is not a number. The value is the nearest number.
-/

namespace RecordQuery.Numeral

/-- The value of a run of decimal digits. -/
def natOfDigits (digits : List Char) : Nat :=
  digits.foldl (fun n c => 10 * n + (c.toNat - 48)) 0

/-- An optional sign: whether it is a minus, and the rest. -/
def sign : List Char → Bool × List Char
  | '-' :: rest => (true, rest)
  | '+' :: rest => (false, rest)
  | rest => (false, rest)

/-- The digits before and after an optional point, and what follows. -/
def digitsAndPoint (text : List Char) : List Char × List Char × List Char :=
  let whole := text.takeWhile Char.isDigit
  match text.dropWhile Char.isDigit with
  | '.' :: rest => (whole, rest.takeWhile Char.isDigit, rest.dropWhile Char.isDigit)
  | rest => (whole, [], rest)

/-- An exponent, to the end of the text; no text is exponent zero. -/
def exponent? : List Char → Option Int
  | [] => some 0
  | c :: rest =>
    let (negative, digits) := sign rest
    if (c == 'e' || c == 'E') && !digits.isEmpty && digits.all Char.isDigit then
      let n : Int := natOfDigits digits
      some (if negative then -n else n)
    else none

/-- A magnitude written in digits, the whole text. -/
def magnitude? (text : List Char) : Option Magnitude := do
  let (whole, fraction, rest) := digitsAndPoint text
  if whole.isEmpty && fraction.isEmpty then none
  let e ← exponent? rest
  return Magnitude.ofDecimal (natOfDigits (whole ++ fraction)) (e - fraction.length)

/-- The number that the whole text spells. -/
def read? (text : List Char) : Option Number :=
  let (negative, body) := sign text
  let name := String.ofList (body.map Char.toLower)
  if name = "nan" then some .nan
  else if name = "inf" || name = "infinity" then some (.infinity negative)
  else (magnitude? body).map (.real negative)

end RecordQuery.Numeral
