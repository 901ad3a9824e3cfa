import RecordQuery.Json.Value
import RecordQuery.Query.Parsed
import RecordQuery.Text.Parts

/-!
# Parsed queries as documents

All that was read from a query: as one JSON value, with its fields in a fixed order, and but for its
problems as text for a reader.
-/

namespace RecordQuery

/-! ## JSON -/

/-- A field that is left out where it has no value. -/
def Json.fieldOf? (name : String) : Option String → List (String × Json)
  | some s => [(name, .string s)]
  | none => []

def Json.natural (n : Nat) : Json := .number (.integer n)

namespace Term

/-- The value as JSON: text, a number, or an instant as text. -/
def valueJson : Term → Json
  | number _ _ x => .number (.float x)
  | t => .string t.valueText

def keyFields (t : Term) : List (String × Json) := Json.fieldOf? "key" t.key?

def comparisonFields (t : Term) : List (String × Json) :=
  Json.fieldOf? "operator" (t.comparison?.map Comparison.spelling)

end Term

def Token.toJson (t : Token) : Json :=
  .object <| ("type", .string t.kind.name) ::
    (match t.kind with
      | .term x => x.keyFields ++ x.comparisonFields ++ [("value", x.valueJson)]
      | .joiner j => [("value", .string j.spelling)]
      | .openGroup negated => [("negated", .bool negated)]
      | .closeGroup | .negation => []) ++
    [("position", .natural t.position)]

def Tree.toJson : Tree → Json
  | .leaf c =>
    .object <| [("type", .string "condition"), ("token_kind", .string c.term.kindName)] ++
      c.term.keyFields ++ ("value", c.term.valueJson) :: c.term.comparisonFields ++
      [("position", .natural c.position), ("negated", .bool c.negated)]
  | .node o l r negated =>
    .object [("type", .string "binary"), ("operator", .string o.spelling), ("left", l.toJson),
      ("right", r.toJson), ("negated", .bool negated)]

def Condition.toJson (c : Condition) : Json :=
  .object <| c.term.keyFields ++ [("value", c.term.valueJson), ("position", .natural c.position),
      ("is_negated", .bool c.negated), ("is_regex", .bool c.term.isRegex),
      ("is_numeric", .bool c.term.isNumeric), ("is_date", .bool c.term.isDate)] ++
    c.term.comparisonFields ++ [("token_kind", .string c.term.kindName)]

def Problem.toJson (p : Problem) : Json :=
  .object <| [("kind", .string p.cause.name), ("message", .string p.cause.message),
    ("position", .natural p.position)] ++
    Json.fieldOf? "key" p.cause.key? ++ Json.fieldOf? "value" p.cause.value?

/-- The query as JSON; `milliseconds` is the time that reading it took. -/
def Parsed.toJson (p : Parsed) (milliseconds : Json) : Json :=
  .object [
    ("tokens", .array (p.tokens.map Token.toJson)),
    ("ast", (p.tree.map Tree.toJson).getD .null),
    ("ast_conditions", .array (p.conditions.map Condition.toJson)),
    ("metadata", .object [
      ("original_query", .string p.query),
      ("parse_time_ms", milliseconds),
      ("has_errors", .bool p.hasProblems),
      ("errors", .array (p.problems.map Problem.toJson))])]

/-! ## Text -/

/-- The lines, each two blanks further in. -/
def indentLines (lines : List String) : String :=
  String.join (lines.map fun line => "  " ++ line ++ "\n")

/-- The summary of a query; with `milliseconds`, also the time that reading it took. -/
def Parsed.summary (p : Parsed) (milliseconds : Option String) : String :=
  let time := match milliseconds with
    | some text => "Parsed in " ++ text ++ " ms\n"
    | none => ""
  let tree := match p.tree with
    | some tree => (Text.lines tree.draw.toList).map String.ofList
    | none => ["(empty)"]
  "Query: " ++ p.query ++ "\n" ++ time ++
    "\nTokens (" ++ toString p.tokens.length ++ "):\n" ++
    indentLines (p.tokens.map Token.describe) ++
    "\nTree:\n" ++ indentLines tree ++
    "\nConditions (" ++ toString p.conditions.length ++ "):\n" ++
    indentLines (p.conditions.map Condition.summary)

end RecordQuery
