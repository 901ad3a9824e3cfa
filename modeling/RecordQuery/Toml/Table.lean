import RecordQuery.Toml.Value

/-!
# Building up tables

What the headers and the pairs of a document add to its tables. Nothing is defined twice: a table
has one header, and a dotted key adds only to tables that dotted keys made.
-/

namespace RecordQuery.Toml

/-- The fields with a value for a name, in place of an earlier one. -/
def put (name : String) (value : Toml) : Fields → Fields
  | [] => [(name, value)]
  | (n, v) :: rest => if n = name then (n, value) :: rest else (n, v) :: put name value rest

/-- Changes the fields at the end of a path of tables. Tables of the path that are missing are made,
and a growing array stands for its last table. -/
def under? (change : Fields → Option Fields) : (path : List String) → Fields → Option Fields
  | [], fields => change fields
  | name :: path, fields =>
    match fields.lookup name with
    | none => do return put name (.table .implied (← under? change path [])) fields
    | some (.table origin inner) => do
      if origin = .braces then none
      return put name (.table origin (← under? change path inner)) fields
    | some (.array true items) =>
      match items.getLast? with
      | some (.table origin inner) => do
        let last := Toml.table origin (← under? change path inner)
        return put name (.array true (items.dropLast ++ [last])) fields
      | _ => none
    | some _ => none

/-- Gives a header to the table of this name. -/
def define? (name : String) (fields : Fields) : Option Fields :=
  match fields.lookup name with
  | none => some (put name (.table .header []) fields)
  | some (.table .implied inner) => some (put name (.table .header inner) fields)
  | some _ => none

/-- Adds a table to the growing array of this name. -/
def grow? (name : String) (fields : Fields) : Option Fields :=
  match fields.lookup name with
  | none => some (put name (.array true [.table .header []]) fields)
  | some (.array true items) =>
    some (put name (.array true (items ++ [.table .header []])) fields)
  | some _ => none

/-- Applies a change that a header makes to the end of its path. -/
def header? (change : String → Fields → Option Fields) (path : List String) (fields : Fields) :
    Option Fields := do
  let name ← path.getLast?
  under? (change name) path.dropLast fields

/-- Adds a value under a key of one or more parts. -/
def insert? (value : Toml) : (key : List String) → Fields → Option Fields
  | [], _ => none
  | [name], fields => if (fields.lookup name).isSome then none else some (put name value fields)
  | name :: key, fields =>
    match fields.lookup name with
    | none => do return put name (.table .dotted (← insert? value key [])) fields
    | some (.table origin inner) => do
      if origin = .dotted || (origin = .implied && key.length > 1) then
        return put name (.table origin (← insert? value key inner)) fields
      else none
    | some (.array true items) =>
      match items.getLast? with
      | some (.table origin inner) => do
        if key.length = 1 then none
        let last := Toml.table origin (← insert? value key inner)
        return put name (.array true (items.dropLast ++ [last])) fields
      | _ => none
    | some _ => none

end RecordQuery.Toml
