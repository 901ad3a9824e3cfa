import RecordQuery.Json.Numeral
import RecordQuery.Json.Writer
import RecordQuery.Text.Parts
import RecordQuery.Time.Reading

/-!
# Fields of records

A record is any JSON value. Its fields are found by name, or by a path of names with points between
them, and the scalars in a field are read as text, as numbers or as instants.
-/

namespace RecordQuery.Record

/-- The value at the end of a path of names. -/
def follow? (record : Json) : List String → Option Json
  | [] => some record
  | name :: path => (record.get? name).bind (follow? · path)

/-- The field of a record: the one of just this name, else the one at the end of the path. -/
def field? (record : Json) (key : String) : Option Json :=
  match record.get? key with
  | some value => some value
  | none =>
    match Text.split '.' key.toList with
    | [_] => none
    | path => follow? record (path.map String.ofList)

/-- The scalars of a field: the items of an array that are not arrays, or the field itself. -/
def scalars : Json → List Json
  | .array items => items.filter fun v => !v.isArray
  | v => [v]

/-- The text of a scalar; none for null, arrays and objects. -/
def text? : Json → Option String
  | .string s => some s
  | .number n => some n.write
  | .bool b => some (Json.writeBool b)
  | _ => none

/-- A scalar as a number: a JSON number, or a string that spells a finite one. -/
def number? : Json → Option Number
  | .number n => some n.toNumber
  | .string s => (Numeral.read? (Text.trim s.toList)).filter (·.isFinite)
  | _ => none

/-- Whether an integer fits 64 bits with its sign. -/
def isSignedWord (i : Int) : Bool := -0x8000000000000000 ≤ i && i < 0x8000000000000000

/-- A scalar as an instant: milliseconds in a signed word of 64 bits, or a string that writes
one. -/
def instant? : Json → Option Instant
  | .number (.integer i) => if isSignedWord i then Instant.ofMillis? i else none
  | .string s => Instant.read? (Text.trim s.toList)
  | _ => none

end RecordQuery.Record
