import RecordQuery.Json.Value
import RecordQuery.Number.Numeral

/-!
# Numerals in JSON text

A whole number that fits 64 bits is kept exactly, but for `-0`. Any other number is read in two
roundings: its leading digits, as many as fit 64 bits, make a whole number, which is then
multiplied or divided by a power of ten. The result may miss the nearest number by a little.
-/

namespace RecordQuery.Json

/-- The greatest whole number of 64 bits. -/
def maxWord : Nat := 0xFFFFFFFFFFFFFFFF

/-- Appends digits to `n` as long as the value fits 64 bits; the value, and how many digits. -/
def absorb (n : Nat) : List Char → Nat × Nat
  | [] => (n, 0)
  | c :: rest =>
    let next := 10 * n + (c.toNat - 48)
    if next ≤ maxWord then
      let (m, used) := absorb next rest
      (m, used + 1)
    else (n, 0)

/-- Ten to the power `e` as a magnitude. -/
def powerOfTen (e : Nat) : Magnitude := Magnitude.ofDecimal 1 e

/-- `a` divided by `10 ^ 308` up to `steps` times, as long as more than `10 ^ 308` is left of the
divisor `10 ^ e`, then by what is left. -/
def divideDown (a : Magnitude) (e : Nat) : (steps : Nat) → Magnitude
  | 0 => a.div (powerOfTen e)
  | steps + 1 =>
    if e ≤ 308 then a.div (powerOfTen e)
    else if a.val = 0 then a
    else divideDown (a.div (powerOfTen 308)) (e - 308) steps

/-- `n * 10 ^ e` in two roundings; none if it is infinite. -/
def scale? (n : Nat) (e : Int) : Option Magnitude :=
  let a := Magnitude.ofQuotient n 1
  if e < 0 then some (divideDown a e.natAbs e.natAbs)
  else if e ≤ 308 then
    let b := a.mul (powerOfTen e.toNat)
    if b.val = infinityPlace then none else some b
  else if n = 0 then some a else none

/-- The parts of a numeral: whole digits, digits after a point, and an exponent. -/
structure NumeralParts where
  negative : Bool
  whole : List Char
  fraction : List Char
  exponent : Option Int

/-- Digits after the point, if there is one; at least one digit. -/
def fraction? : List Char → Option (List Char × List Char)
  | '.' :: rest =>
    let run := rest.takeWhile Char.isDigit
    if run.isEmpty then none else some (run, rest.dropWhile Char.isDigit)
  | rest => some ([], rest)

/-- The exponent up to the end of the text, if there is one; at least one digit. -/
def exponent? : List Char → Option (Option Int)
  | [] => some none
  | text => (RecordQuery.Numeral.exponent? text).map some

/-- The parts of a numeral: an optional minus, digits without a leading zero, and optionally a
fraction and an exponent. -/
def numeralParts? (text : List Char) : Option NumeralParts := do
  let (negative, body) := match text with
    | '-' :: rest => (true, rest)
    | rest => (false, rest)
  let whole := body.takeWhile Char.isDigit
  if whole.isEmpty || (whole.length > 1 && whole.head? == some '0') then none
  let (fraction, rest) ← fraction? (body.dropWhile Char.isDigit)
  let exponent ← exponent? rest
  return { negative, whole, fraction, exponent }

/-- The number of the parts; none if it is too large. -/
def NumeralParts.value? (p : NumeralParts) : Option Numeric :=
  let (n, used) := absorb 0 p.whole
  let isWhole := p.fraction.isEmpty && p.exponent.isNone && used == p.whole.length
  if isWhole && !p.negative then some (.integer n)
  else if isWhole && 0 < n && n ≤ 0x8000000000000000 then some (.integer (-(n : Int)))
  else
    let (n, usedFraction) := absorb n p.fraction
    let e : Int := (p.whole.length - used : Nat) - (usedFraction : Int) + p.exponent.getD 0
    (scale? n e).map fun a => .float (.real p.negative a)

/-- The number that the whole text spells. -/
def numeral? (text : List Char) : Option Numeric := (numeralParts? text).bind (·.value?)

/-- The number as binary64. -/
def Numeric.toNumber : Numeric → Number
  | integer i => Number.ofInt i
  | float x => x

end RecordQuery.Json
