import RecordQuery.Text.CaseFold
import RecordQuery.Text.Table

/-!
# Classes of characters

A class is built from ranges of code points by the operations of sets, and by adding the characters
that differ from its own in case only. It is never written out: a character is tested by the way in
which the class was built.
-/

namespace RecordQuery.Regex

inductive SetOperation where
  | union
  | intersection
  | difference
  | symmetricDifference
  deriving DecidableEq, Repr

def SetOperation.eval : SetOperation → Bool → Bool → Bool
  | union, a, b => a || b
  | intersection, a, b => a && b
  | difference, a, b => a && !b
  | symmetricDifference, a, b => a != b

inductive CharClass where
  | ranges (rs : List (Nat × Nat))
  | combine (op : SetOperation) (left right : CharClass)
  | complement (c : CharClass)
  /-- With all variants in case, of all letters or of those of ASCII only. -/
  | folded (unicode : Bool) (c : CharClass)
  deriving Inhabited

namespace CharClass

def none : CharClass := ranges []

def all : CharClass := ranges [(0, 0x10FFFF)]

def single (c : Char) : CharClass := ranges [(c.toNat, c.toNat)]

def union (a b : CharClass) : CharClass := combine .union a b

def complementIf (negated : Bool) (c : CharClass) : CharClass :=
  if negated then complement c else c

/-- The characters that differ from `c` in case only, and `c`. -/
def variants (unicode : Bool) (c : Char) : List Char :=
  if unicode then c :: Text.caseVariants c else [c, c.toLower, c.toUpper]

def contains : CharClass → Char → Bool
  | ranges rs, c => Text.inRanges rs c
  | combine op a b, c => op.eval (a.contains c) (b.contains c)
  | complement a, c => !a.contains c
  | folded unicode a, c => (variants unicode c).any a.contains

/-! ## Weight

The room that a class takes in a compiled pattern is estimated in bytes. Classes of ASCII take
little; the others grow with their ranges, as characters are told by their encoded bytes.
-/

/-- The one character of a class. -/
def single? : CharClass → Option Char
  | ranges [(a, b)] => if a = b then some (Char.ofNat a) else Option.none
  | folded unicode (ranges [(a, b)]) =>
    if a = b && (variants unicode (Char.ofNat a)).all (· == Char.ofNat a) then
      some (Char.ofNat a)
    else Option.none
  | _ => Option.none

def isAscii : CharClass → Bool
  | ranges rs => rs.all (·.2 < 128)
  | combine op a b =>
    match op with
    | .intersection => a.isAscii || b.isAscii
    | .difference => a.isAscii
    | _ => a.isAscii && b.isAscii
  | complement _ => false
  | folded unicode a => a.isAscii && !(unicode && (a.contains 'k' || a.contains 's'))

/-- About how many ranges the class has when it is written out. -/
def rangeCount : CharClass → Nat
  | ranges rs => rs.length
  | combine _ a b => a.rangeCount + b.rangeCount
  | complement a => a.rangeCount + 14
  | folded unicode (ranges [(a, b)]) =>
    if a = b then (variants unicode (Char.ofNat a)).eraseDups.length else 4
  | folded _ a => a.rangeCount + 2

def weight (c : CharClass) : Nat :=
  match c.single? with
  | some x => 32 * x.utf8Size
  | Option.none => if c.isAscii then 64 + 8 * c.rangeCount else 64 + 64 * c.rangeCount

end CharClass

end RecordQuery.Regex
