import RecordQuery.Number.Basic

/-!
# JSON values

The values that JSON text stands for. Whole numbers that fit 64 bits, signed or not, are kept as
integers; all other numbers are binary64. The fields of an object that was read stand in the order
of their names and each name once.
-/

namespace RecordQuery

inductive Json.Numeric where
  | integer (i : Int)
  | float (x : Number)
  deriving DecidableEq, Repr

inductive Json where
  | null
  | bool (b : Bool)
  | number (n : Json.Numeric)
  | string (s : String)
  | array (items : List Json)
  | object (fields : List (String × Json))
  deriving Inhabited

namespace Json

/-- The name of the type of a value. -/
def typeName : Json → String
  | null => "null"
  | bool _ => "boolean"
  | number _ => "number"
  | string _ => "string"
  | array _ => "array"
  | object _ => "object"

def isNull : Json → Bool
  | null => true
  | _ => false

def isArray : Json → Bool
  | array _ => true
  | _ => false

/-- The field of an object. -/
def get? (name : String) : Json → Option Json
  | object fields => fields.lookup name
  | _ => none

/-- The fields with one more, in its place by name, instead of an earlier one of that name. -/
def insertField (name : String) (value : Json) : List (String × Json) → List (String × Json)
  | [] => [(name, value)]
  | (n, v) :: rest =>
    match compare name n with
    | .lt => (name, value) :: (n, v) :: rest
    | .eq => (name, value) :: rest
    | .gt => (n, v) :: insertField name value rest

end Json

end RecordQuery
