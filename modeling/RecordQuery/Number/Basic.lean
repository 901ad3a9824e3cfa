/-!
# Numbers

Numbers are those of the binary64 format. A magnitude is named by its place among the magnitudes
of the format in increasing order: place 0 is zero and the last place is infinity. So two numbers
compare as their signed places do, and no comparison needs arithmetic on reals.
-/

namespace RecordQuery

/-- Two to the power `n`. -/
abbrev twoTo (n : Nat) : Nat := Nat.pow 2 n

/-- Ten to the power `n`. -/
abbrev tenTo (n : Nat) : Nat := Nat.pow 10 n

/-- How many magnitudes share an exponent: two to the power 52. -/
def binade : Nat := 0x10000000000000

/-- The place of infinity among the magnitudes. -/
def infinityPlace : Nat := 2047 * binade

/-- The place of a magnitude among those of the format. -/
abbrev Magnitude := Fin (infinityPlace + 1)

/-- A binary64 number. Both zeros are numbers of their own; all that is not a number is one. -/
inductive Number where
  | nan
  | real (negative : Bool) (magnitude : Magnitude)
  deriving DecidableEq, Inhabited, Repr

namespace Magnitude

/-- The magnitude at a place, infinity beyond the last. -/
def atPlace (n : Nat) : Magnitude := ⟨min n infinityPlace, by omega⟩

def infinity : Magnitude := atPlace infinityPlace

/-- The exponent `e` of a finite magnitude `m * 2 ^ e`. -/
def exponent (a : Magnitude) : Int :=
  if a.val < binade then -1074 else (a.val / binade : Nat) - 1075

/-- The mantissa `m` of a finite magnitude `m * 2 ^ e`. -/
def mantissa (a : Magnitude) : Nat :=
  if a.val < binade then a.val else binade + a.val % binade

end Magnitude

namespace Number

def zero (negative : Bool) : Number := .real negative (Magnitude.atPlace 0)

def infinity (negative : Bool) : Number := .real negative Magnitude.infinity

/-- The signed place. The two zeros share place 0. -/
def place? : Number → Option Int
  | .nan => none
  | .real false a => some a.val
  | .real true a => some (-(a.val : Int))

def isFinite : Number → Bool
  | .nan => false
  | .real _ a => a.val < infinityPlace

/-- Either zero. -/
def isZero (x : Number) : Bool := x.place? == some 0

/-- How two numbers compare; a value that is not a number compares with nothing. -/
def compare? (x y : Number) : Option Ordering := do
  return compare (← x.place?) (← y.place?)

/-- A place for every number: `-0` stands directly before `+0` and what is not a number last. -/
def sortPlace : Number → Int
  | .nan => infinityPlace + 1
  | .real false a => a.val
  | .real true a => -(a.val : Int) - 1

def negate : Number → Number
  | .nan => .nan
  | .real negative a => .real (!negative) a

theorem compare?_of_place {x y : Number} {i j : Int} (hx : x.place? = some i)
    (hy : y.place? = some j) : x.compare? y = some (compare i j) := by
  simp [compare?, hx, hy]

end Number

end RecordQuery
