import RecordQuery.Query.Parsed
import RecordQuery.Record.Sort
import RecordQuery.Regex.Reader
import RecordQuery.Text.Lowercase

/-!
# Filtering records

The tree of a query is prepared once: sort markers are taken out of it, texts are lowered unless
case counts, and patterns are compiled. What is left of it then tells for each record whether it is kept.
-/

namespace RecordQuery

/-- A pattern that is none, and the place of its term in the query. -/
structure InvalidRegex where
  pattern : String
  position : Nat
  deriving DecidableEq, Repr

/-- The message, up to what is wrong with the pattern. -/
def InvalidRegex.message (e : InvalidRegex) : String :=
  "invalid regex /" ++ e.pattern ++ "/ at position " ++ toString e.position ++ ": "

/-- Records were expected, and a value of another type was found. -/
structure NotRecords where
  found : String
  deriving DecidableEq, Repr

def NotRecords.message (e : NotRecords) : String :=
  "expected a JSON array of records, found " ++ e.found

/-- An engine for regular expressions tells of a pattern in which texts it matches; none if it is no
pattern. -/
abbrev Engine := (ignoreCase : Bool) → (pattern : String) → Option (String → Bool)

/-- A test of one scalar. -/
inductive Test where
  /-- The scalar's text, lowered unless case counts, holds this text. -/
  | text (caseSensitive : Bool) (needle : String)
  | regex (isMatch : String → Bool)
  | number (c : Comparison) (x : Number)
  | date (c : Comparison) (x : Instant)

namespace Test

/-- The text in which a text is searched for. -/
def searched (caseSensitive : Bool) (s : String) : String :=
  if caseSensitive then s else Text.lowercase s

def holdsOfScalar (t : Test) (scalar : Json) : Bool :=
  match t with
  | text caseSensitive needle =>
    (Record.text? scalar).any fun s => Text.isInfix needle.toList (searched caseSensitive s).toList
  | regex isMatch => (Record.text? scalar).any isMatch
  | number c x => (Record.number? scalar).any fun y => c.holds (y.compare? x)
  | date c x => (Record.instant? scalar).any fun y => c.holds (some (y.compare x))

/-- Whether any scalar of a field passes. -/
def holdsOfField (t : Test) (field : Json) : Bool := (Record.scalars field).any t.holdsOfScalar

/-- Whether the named field passes; without a key, whether any field of the record does. -/
def holds (t : Test) (key : Option String) (record : Json) : Bool :=
  match key with
  | some key => (Record.field? record key).any t.holdsOfField
  | none =>
    match record with
    | .object fields => fields.any fun f => t.holdsOfField f.2
    | scalar => t.holdsOfField scalar

/-- The test that a term makes. -/
def ofTerm (engine : Engine) (caseSensitive : Bool) (position : Nat) : Term → Except InvalidRegex Test
  | .text _ .regex pattern =>
    match engine (!caseSensitive) pattern with
    | some isMatch => .ok (regex isMatch)
    | none => .error ⟨pattern, position⟩
  | .text _ _ s => .ok (text caseSensitive (searched caseSensitive s))
  | .number _ c x => .ok (number c x)
  | .date _ c x => .ok (date c x)

end Test

/-- What is left of a tree without its sort markers. -/
inductive Predicate where
  | leaf (key : Option String) (test : Test) (negated : Bool)
  | node (connective : Connective) (left right : Predicate) (negated : Bool)

namespace Predicate

/-- The predicate that holds where this one does not. -/
def negate : Predicate → Predicate
  | leaf k t n => leaf k t (!n)
  | node o l r n => node o l r (!n)

def negateIf (n : Bool) (p : Predicate) : Predicate := if n then p.negate else p

def eval (record : Json) : Predicate → Bool
  | leaf key test negated => test.holds key record != negated
  | node o l r negated => o.eval (l.eval record) (r.eval record) != negated

theorem eval_negate (record : Json) (p : Predicate) :
    p.negate.eval record = !p.eval record := by
  cases p <;> simp [negate, eval]

/-- Two sides under a node. A side that is missing leaves the other, under the node's negation. -/
def join (o : Connective) (negated : Bool) : Option Predicate → Option Predicate → Option Predicate
  | some l, some r => some (node o l r negated)
  | some p, none | none, some p => some (p.negateIf negated)
  | none, none => none

/-- The predicate of a tree; none if it holds sort markers only. -/
def ofTree (engine : Engine) (caseSensitive : Bool) : Tree → Except InvalidRegex (Option Predicate)
  | .leaf c =>
    if c.term.isSortMarker then .ok none
    else do
      let test ← Test.ofTerm engine caseSensitive c.position c.term
      return some (leaf c.term.key? test c.negated)
  | .node o l r negated => do
    let l ← ofTree engine caseSensitive l
    let r ← ofTree engine caseSensitive r
    return join o negated l r

end Predicate

/-- A query prepared for records. -/
structure RecordFilter where
  /-- None to keep every record. -/
  predicate : Option Predicate
  sortKeys : List SortKey

namespace RecordFilter

/-- Prepares a query, for the engine of this library unless another one is given. -/
def ofParsed (caseSensitive : Bool) (query : Parsed) (engine : Engine := Regex.engine) :
    Except InvalidRegex RecordFilter := do
  let predicate ← match query.tree with
    | some tree => Predicate.ofTree engine caseSensitive tree
    | none => .ok none
  return { predicate, sortKeys := SortKey.ofConditions query.conditions }

def keeps (f : RecordFilter) (record : Json) : Bool := f.predicate.all (·.eval record)

/-- The records that are kept, sorted. -/
def apply (f : RecordFilter) (records : List Json) : List Json :=
  SortKey.sortRecords f.sortKeys (records.filter f.keeps)

/-- The kept records of an array. -/
def applyTo (f : RecordFilter) : Json → Except NotRecords (List Json)
  | .array records => .ok (f.apply records)
  | v => .error ⟨v.typeName⟩

end RecordFilter

end RecordQuery
