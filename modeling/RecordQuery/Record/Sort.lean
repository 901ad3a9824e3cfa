import RecordQuery.Query.Condition
import RecordQuery.Record.Field

/-!
# Sorting records

Conditions under the keys `asc` and `desc` are no tests but say how the records are sorted. Records
are compared under each sort key in turn. A record without the field, or with null in it, comes
last in both directions.
-/

namespace RecordQuery

inductive Direction where
  | ascending
  | descending
  deriving DecidableEq, Repr

namespace Direction

/-- The key of a condition that sorts in this direction. -/
def marker : Direction → String
  | ascending => "asc"
  | descending => "desc"

/-- The direction that a key asks for. -/
def ofKey? (key : Option String) : Option Direction :=
  if key = some ascending.marker then some ascending
  else if key = some descending.marker then some descending
  else none

end Direction

/-- Whether the term says how to sort. -/
def Term.isSortMarker (t : Term) : Bool := (Direction.ofKey? t.key?).isSome

structure SortKey where
  field : String
  direction : Direction
  deriving DecidableEq, Repr

namespace SortKey

/-- The sort key of a condition; none if it is no sort marker or names no field by its text. -/
def ofCondition? (c : Condition) : Option SortKey := do
  let direction ← Direction.ofKey? c.term.key?
  match c.term with
  | .text _ _ field => some { field, direction }
  | _ => none

/-- The sort keys among the conditions, in order. -/
def ofConditions (cs : List Condition) : List SortKey := cs.filterMap ofCondition?

def describe (k : SortKey) : String := k.direction.marker ++ ":" ++ k.field

/-- The field that a record is sorted by, if it has a value. -/
def value? (k : SortKey) (record : Json) : Option Json :=
  (Record.field? record k.field).filter fun v => !v.isNull

/-- The text that a value is sorted by. -/
def sortText (v : Json) : String := (Record.text? v).getD v.compact

/-- The order of two values: by number if both are numbers, else by text. -/
def compareValues (a b : Json) : Ordering :=
  match Record.number? a, Record.number? b with
  | some x, some y => compare x.sortPlace y.sortPlace
  | _, _ => compare (sortText a) (sortText b)

/-- The order of two records under one key. -/
def compareRecords (k : SortKey) (a b : Json) : Ordering :=
  match k.value? a, k.value? b with
  | none, none => .eq
  | none, some _ => .gt
  | some _, none => .lt
  | some x, some y =>
    match k.direction with
    | .ascending => compareValues x y
    | .descending => (compareValues x y).swap

/-- The order of two records under several keys, the first that tells them apart deciding. -/
def compareAll (keys : List SortKey) (a b : Json) : Ordering :=
  keys.foldr (fun k rest => (k.compareRecords a b).then rest) .eq

/-- The records in order; those that no key tells apart stay in the order they had. -/
def sortRecords (keys : List SortKey) (records : List Json) : List Json :=
  records.mergeSort fun a b => compareAll keys a b != .gt

end SortKey

end RecordQuery
