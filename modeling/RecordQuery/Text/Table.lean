/-!
# Tables of characters

A property of characters is a list of closed ranges of code points, in increasing order. Letters of one
case mostly lie in runs whose counterparts in another case lie at one distance. All tables are those of
Unicode 16.
-/

namespace RecordQuery.Text

/-- Whether the code point of `c` lies in one of the closed ranges. -/
def inRanges (ranges : List (Nat × Nat)) (c : Char) : Bool :=
  ranges.any fun r => r.1 ≤ c.toNat && c.toNat ≤ r.2

/-- The characters `first`, `first + step`, … up to `last`, whose counterparts lie `shift` code
points further on. -/
structure CaseRun where
  first : Nat
  last : Nat
  step : Nat
  shift : Int

namespace CaseRun

def contains (run : CaseRun) (c : Char) : Bool :=
  run.first ≤ c.toNat && c.toNat ≤ run.last && (c.toNat - run.first) % run.step == 0

/-- The character `shift` code points after `c`. -/
def image (run : CaseRun) (c : Char) : Char := Char.ofNat (c.toNat + run.shift).toNat

/-- The character `shift` code points before `c`. -/
def source (run : CaseRun) (c : Char) : Char := Char.ofNat (c.toNat - run.shift).toNat

/-- The counterpart of a character in the first run that holds it, or the character itself. -/
def map (runs : List CaseRun) (c : Char) : Char :=
  match runs.find? (·.contains c) with
  | some run => run.image c
  | none => c

end CaseRun

end RecordQuery.Text
