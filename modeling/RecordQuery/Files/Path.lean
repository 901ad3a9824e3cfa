import RecordQuery.Text.Parts

/-!
# Paths

A path from the root of the file system. Its last name stands first, so that the directory which
holds it is its tail.
-/

namespace RecordQuery

/-- The names on the way from the root, the last first. -/
abbrev Path := List String

namespace Path

def display (p : Path) : String := "/" ++ "/".intercalate p.reverse

/-- The path that a text names, from `directory` unless it starts with a slash. A slash at the end
asks for a directory, as a dot after it does. -/
def ofText (directory : Path) (text : String) : Path :=
  let parts := (Text.split '/' text.toList).map String.ofList
  let isDot (name : String) : Bool := name = "" || name = "."
  let names := (parts.filter fun name => !isDot name) ++
    if parts.length > 1 && parts.getLast?.any isDot then ["."] else []
  names.reverse ++ if text.toList.head? = some '/' then [] else directory

/-- The path without dots, and without the names that pairs of dots take back. -/
def normal : Path → Path
  | [] => []
  | name :: parent =>
    if name = "." then normal parent
    else if name = ".." then (normal parent).tail
    else name :: normal parent

end Path

end RecordQuery
