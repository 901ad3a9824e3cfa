import RecordQuery.Number.Shortest

/-!
# Written numbers

Two ways of writing a number from its shortest decimal: plainly, in positional notation whatever
its size, and as JSON text, where very large and very small numbers have an exponent.
-/

namespace RecordQuery

/-- The digits of a decimal without trailing zeros, and the place of the point from the left: the
value is `0.digits * 10 ^ point`. -/
def Magnitude.Decimal.pointed (d : Magnitude.Decimal) : List Char × Int :=
  let all := Nat.toDigits 10 d.digits
  ((all.reverse.dropWhile (· == '0')).reverse, d.exponent + all.length)

/-- Digits with the point at the given place, filled with zeros on either side; no point on a whole
number. -/
def positional (digits : List Char) (point : Int) : List Char :=
  if point ≤ 0 then '0' :: '.' :: List.replicate (-point).toNat '0' ++ digits
  else
    let whole := digits.take point.toNat
    let fraction := digits.drop point.toNat
    let padded := whole ++ List.replicate (point.toNat - whole.length) '0'
    if fraction.isEmpty then padded else padded ++ '.' :: fraction

/-- One digit, a point before the others if there are any, and the exponent with its sign. -/
def scientific (digits : List Char) (point : Int) : List Char :=
  let e := point - 1
  let mantissa := match digits with
    | [d] => [d]
    | d :: rest => d :: '.' :: rest
    | [] => []
  mantissa ++ 'e' :: (if e < 0 then '-' else '+') :: Nat.toDigits 10 e.natAbs

def signed (negative : Bool) (text : List Char) : String :=
  String.ofList (if negative then '-' :: text else text)

namespace Number

/-- The plain form: positional, without a point on whole numbers, a tie between two decimals going
up. -/
def plain : Number → String
  | .nan => "NaN"
  | .real negative a =>
    signed negative <|
      if a.val = infinityPlace then ['i', 'n', 'f']
      else if a.val = 0 then ['0']
      else
        let (digits, point) := (a.shortest .up).pointed
        positional digits point

/-- The form in JSON text: with a point, or with an exponent below `10 ^ (-5)` and from `10 ^ 16`
on, a tie between two decimals going to the even digit. What is not a finite number is `null`. -/
def json : Number → String
  | .nan => "null"
  | .real negative a =>
    if a.val = infinityPlace then "null"
    else signed negative <|
      if a.val = 0 then ['0', '.', '0']
      else
        let (digits, point) := (a.shortest .toEven).pointed
        if point < -4 || 16 < point then scientific digits point
        else if digits.length ≤ point.toNat then positional digits point ++ ['.', '0']
        else positional digits point

end Number

end RecordQuery
