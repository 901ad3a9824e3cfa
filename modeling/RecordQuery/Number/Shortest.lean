import RecordQuery.Number.Rounding

/-!
# Shortest decimals

The fewest decimal digits that read back as a given number, and among those the nearest to it. On
the grid of `n` digits the two neighbours of the value are tried; the first grid with one that
reads back gives the digits.
-/

namespace RecordQuery

/-- Which of two equally near decimals is taken. -/
inductive Tie where
  | up
  | toEven

namespace Magnitude

/-- The decimal `digits * 10 ^ exponent`. -/
structure Decimal where
  digits : Nat
  exponent : Int
  deriving DecidableEq, Repr

/-- A value and the ends of the interval of reals that round to it, as quotients with one
denominator; `closed` tells whether the ends round to it too. -/
structure Surroundings where
  low : Nat
  value : Nat
  high : Nat
  den : Nat
  closed : Bool

/-- The interval of reals that round to a finite positive magnitude. The gap below a power of two
is half the gap above, but for the least. -/
def surroundings (a : Magnitude) : Surroundings :=
  let m := a.mantissa
  let up := twoTo (a.exponent - 2).toNat
  let below := if m == binade && a.exponent > -1074 then 1 else 2
  { low := (4 * m - below) * up
    value := 4 * m * up
    high := (4 * m + 2) * up
    den := twoTo (2 - a.exponent).toNat
    closed := m % 2 == 0 }

/-- Whether `d` lies in the interval. -/
def Surroundings.holds (s : Surroundings) (d : Decimal) : Bool :=
  let x := d.digits * tenTo d.exponent.toNat * s.den
  let scale := tenTo (-d.exponent).toNat
  if s.closed then s.low * scale ≤ x && x ≤ s.high * scale
  else s.low * scale < x && x < s.high * scale

/-- The exponent `k` with `10 ^ (k - 1) ≤ value < 10 ^ k`, found from a guess that is at most one
too small. -/
def Surroundings.size (s : Surroundings) : Int :=
  let bits : Int := (s.value.log2 : Int) - s.den.log2 - 1
  let guess : Int := (bits * 30103).fdiv 100000
  let fits (k : Int) : Bool := s.value * tenTo (-k).toNat < s.den * tenTo k.toNat
  if fits guess then guess else if fits (guess + 1) then guess + 1 else guess + 2

/-- The nearer of the value's two neighbours on the grid `10 ^ e`, if one is in the interval. -/
def Surroundings.onGrid (s : Surroundings) (tie : Tie) (e : Int) : Option Decimal :=
  let num := s.value * tenTo (-e).toNat
  let den := s.den * tenTo e.toNat
  let q := num / den
  let lower : Decimal := ⟨q, e⟩
  let upper : Decimal := ⟨q + 1, e⟩
  match s.holds lower, s.holds upper with
  | false, false => none
  | true, false => some lower
  | false, true => some upper
  | true, true =>
    let twice := 2 * (num % den)
    if twice < den then some lower
    else if twice > den then some upper
    else match tie with
      | .up => some upper
      | .toEven => some (if q % 2 == 0 then lower else upper)

/-- The shortest decimal that reads back as a finite positive magnitude. Seventeen digits always
do. -/
def shortest (tie : Tie) (a : Magnitude) : Decimal :=
  let s := a.surroundings
  let size := s.size
  ((List.range 17).findSome? fun (n : Nat) => s.onGrid tie (size - (n + 1))).getD ⟨a.mantissa, 0⟩

end Magnitude

end RecordQuery
