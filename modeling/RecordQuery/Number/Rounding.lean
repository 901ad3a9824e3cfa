import RecordQuery.Number.Basic

/-!
# Rounding

The number nearest to a quotient of two naturals; of two that are equally near, the one with the
even mantissa. Products, quotients and decimals are rounded from their exact values.
-/

namespace RecordQuery

/-- The quotient rounded to the nearest natural, half to even. -/
def roundDiv (num den : Nat) : Nat :=
  let q := num / den
  let twice := 2 * (num % den)
  if twice > den || (twice == den && q % 2 == 1) then q + 1 else q

namespace Magnitude

/-- The numerator and denominator of `num / den` in units of `2 ^ e`. -/
def inUnits (num den : Nat) (e : Int) : Nat × Nat :=
  (num * twoTo (-e).toNat, den * twoTo e.toNat)

/-- The exponent with which `num / den` has a mantissa of 53 bits, or the least of the format. -/
def unitExponent (num den : Nat) : Int :=
  let e : Int := (num.log2 : Int) - den.log2 - 52
  let (n, d) := inUnits num den e
  max (-1074) (if n < d * binade then e - 1 else e)

/-- The magnitude nearest to `num / den`. With exponent `e`, mantissa `m` is at place
`(e + 1074) * binade + m`; a mantissa rounded up to 54 bits is so carried into the exponent. -/
def ofQuotient (num den : Nat) : Magnitude :=
  if num = 0 then atPlace 0
  else
    let e := unitExponent num den
    let (n, d) := inUnits num den e
    atPlace ((e + 1074).toNat * binade + roundDiv n d)

/-- The magnitude nearest to `m * 2 ^ e`. -/
def ofScaled (m : Nat) (e : Int) : Magnitude :=
  ofQuotient (m * twoTo e.toNat) (twoTo (-e).toNat)

/-- The nearest magnitude to the product of two finite ones. -/
def mul (a b : Magnitude) : Magnitude :=
  ofScaled (a.mantissa * b.mantissa) (a.exponent + b.exponent)

/-- The nearest magnitude to the quotient of two finite ones, the second not zero. -/
def div (a b : Magnitude) : Magnitude :=
  let e := a.exponent - b.exponent
  ofQuotient (a.mantissa * twoTo e.toNat) (b.mantissa * twoTo (-e).toNat)

/-- The magnitude nearest to `coefficient * 10 ^ exponent`. A value with more than 310 digits before
the point rounds to infinity, and one below `10 ^ (-330)` to zero, whatever its digits. -/
def ofDecimal (coefficient : Nat) (exponent : Int) : Magnitude :=
  let size : Int := (Nat.toDigits 10 coefficient).length + exponent
  if coefficient = 0 || size < -330 then atPlace 0
  else if size > 310 then infinity
  else ofQuotient (coefficient * tenTo exponent.toNat) (tenTo (-exponent).toNat)

end Magnitude

namespace Number

def ofNat (n : Nat) : Number := .real false (Magnitude.ofQuotient n 1)

def ofInt (i : Int) : Number := .real (i < 0) (Magnitude.ofQuotient i.natAbs 1)

end Number

end RecordQuery
