import RecordQuery.Regex.Pattern

/-!
# Matching

A pattern maps the places at which a match may begin to those at which it may end. Sets of places
are the binary digits of naturals, place 0 being before the first character. Against a given text
each class and each condition is first turned into the set of places where it holds.
-/

namespace RecordQuery.Regex

/-- A pattern against one text. -/
inductive Plan where
  /-- One character, at the places of `set`. -/
  | advance (set : Nat)
  /-- No character, at the places of `set`. -/
  | stay (set : Nat)
  | seq (a b : Plan)
  | either (a b : Plan)
  | repeated (least : Nat) (most : Option Nat) (p : Plan)

/-- The places before the characters of a class. -/
def placesOf (c : CharClass) : List Char → Nat
  | [] => 0
  | x :: rest => 2 * placesOf c rest + (c.contains x).toNat

/-- The places where a condition holds, after the character `before`. -/
def placesWhere (l : Look) (before : Option Char) : List Char → Nat
  | [] => (l.holds before none).toNat
  | x :: rest => 2 * placesWhere l (some x) rest + (l.holds before (some x)).toNat

/-- All places of a text. -/
def allPlaces (text : List Char) : Nat := Nat.pow 2 (text.length + 1) - 1

def plan (text : List Char) : Regex → Plan
  | empty => .stay (allPlaces text)
  | one c => .advance (placesOf c text)
  | look l => .stay (placesWhere l none text)
  | capture r => r.plan text
  | seq a b => .seq (a.plan text) (b.plan text)
  | either a b => .either (a.plan text) (b.plan text)
  | repeated least most r => .repeated least most (r.plan text)

/-- `f` applied `n` times, or until it changes nothing. -/
def iterate (f : Nat → Nat) : (n : Nat) → Nat → Nat
  | 0, s => s
  | n + 1, s =>
    let next := f s
    if next = s then s else iterate f n next

/-- The places at which a match may end, of those that begin at the places of `s`; `size` is the
number of places. A match repeated without limit visits each place at most once. -/
def Plan.ends (size : Nat) : Plan → Nat → Nat
  | advance set, s => (s &&& set) <<< 1
  | stay set, s => s &&& set
  | seq a b, s => b.ends size (a.ends size s)
  | either a b, s => a.ends size s ||| b.ends size s
  | repeated least most p, s =>
    let required := iterate (p.ends size) least s
    let further := match most with
      | some most => most - least
      | none => size
    iterate (fun s => s ||| p.ends size s) further required

/-- Whether the pattern matches anywhere in the text. -/
def isMatch (r : Regex) (text : String) : Bool :=
  let text := text.toList
  (r.plan text).ends (text.length + 1) (allPlaces text) != 0

end RecordQuery.Regex
