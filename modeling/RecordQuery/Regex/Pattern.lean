import RecordQuery.Regex.CharClass
import RecordQuery.Regex.Property

/-!
# Patterns

A pattern is a regular expression with conditions on the two characters around a place. Whether a
repetition is greedy, and what a group captures, cannot be told from whether a pattern matches, and
so is not kept.
-/

namespace RecordQuery

/-- A condition on the characters before and after a place. -/
inductive Regex.Look where
  | textStart
  | textEnd
  | lineStart
  | lineEnd
  /-- Lines that end in a line feed, a carriage return or both. -/
  | anyLineStart
  | anyLineEnd
  | wordBoundary (unicode : Bool)
  | notWordBoundary (unicode : Bool)
  | wordStart (unicode : Bool)
  | wordEnd (unicode : Bool)
  /-- No word character before. -/
  | wordStartHalf (unicode : Bool)
  /-- No word character after. -/
  | wordEndHalf (unicode : Bool)
  deriving DecidableEq, Repr

inductive Regex where
  | empty
  | one (c : Regex.CharClass)
  | look (l : Regex.Look)
  | capture (r : Regex)
  | seq (a b : Regex)
  | either (a b : Regex)
  | repeated (least : Nat) (most : Option Nat) (r : Regex)
  deriving Inhabited

namespace Regex

/-- Whether the character before or after is there and a word character. -/
def isWord (unicode : Bool) (c : Option Char) : Bool :=
  c.any (if unicode then Property.word else Property.asciiWord).contains

namespace Look

/-- Whether the condition holds between two characters, none at the ends of the text. -/
def holds (l : Look) (before after : Option Char) : Bool :=
  match l with
  | textStart => before.isNone
  | textEnd => after.isNone
  | lineStart => before.isNone || before == some '\n'
  | lineEnd => after.isNone || after == some '\n'
  | anyLineStart =>
    before.isNone || before == some '\n' || (before == some '\r' && after != some '\n')
  | anyLineEnd => after.isNone || after == some '\r' || (after == some '\n' && before != some '\r')
  | wordBoundary u => isWord u before != isWord u after
  | notWordBoundary u => isWord u before == isWord u after
  | wordStart u => !isWord u before && isWord u after
  | wordEnd u => isWord u before && !isWord u after
  | wordStartHalf u => !isWord u before
  | wordEndHalf u => !isWord u after

end Look

/-! ## Weight -/

/-- Whether the pattern matches no character at all. -/
def isWidthless : Regex → Bool
  | empty | look _ => true
  | one _ => false
  | capture r | repeated _ _ r => r.isWidthless
  | seq a b | either a b => a.isWidthless && b.isWidthless

/-- About how many bytes the compiled pattern takes. Each required repetition is a copy of what is
repeated, except that without width one is enough. -/
def weight : Regex → Nat
  | empty | look _ => 32
  | one c => c.weight
  | capture r => r.weight + 64
  | seq a b => a.weight + b.weight
  | either a b => a.weight + b.weight + 72
  | repeated least most r =>
    let least := if r.isWidthless then min least 1 else least
    match most with
    | none => max least 1 * r.weight + 40
    | some most =>
      let most := if r.isWidthless then min most 1 else most
      least * r.weight + (most - least) * (r.weight + 40) + 32

/-- The most that a pattern may weigh. -/
def maxWeight : Nat := 10 * 0x100000

end Regex

end RecordQuery
