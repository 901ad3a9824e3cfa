import RecordQuery.Number.Basic

/-!
# TOML values

The values that a TOML document is made of. A document is a list of named fields, and so is each
table in it. Tables remember how they came about, because this decides what the rest of the document
may still add to them.
-/

namespace RecordQuery

inductive Toml.Origin where
  /-- The table has a header of its own. -/
  | header
  /-- The table was named on the way to another in a header. -/
  | implied
  /-- The table was named on the way to a value in a dotted key. -/
  | dotted
  /-- The table was written in braces. -/
  | braces
  deriving DecidableEq, Repr

inductive Toml where
  | string (s : String)
  | integer (n : Int)
  | float (x : Number)
  | bool (b : Bool)
  /-- A date, a time or both, as written. -/
  | moment (text : String)
  /-- An array; headers may add tables to a `growing` one. -/
  | array (growing : Bool) (items : List Toml)
  | table (origin : Toml.Origin) (fields : List (String × Toml))
  deriving Inhabited

namespace Toml

/-- Values by name, each name once. -/
abbrev Fields := List (String × Toml)

end Toml

end RecordQuery
