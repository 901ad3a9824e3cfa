import RecordQuery.Query.Builder
import RecordQuery.Query.Cleanup
import RecordQuery.Query.Condition
import RecordQuery.Query.Segment

/-!
# Parsed queries

All that is read from a query: its normal spelling, tokens, tree, conditions and problems.
-/

namespace RecordQuery

/-- The tokens of a text, cleaned up, and the problems in it, both in order. -/
structure TokenStream where
  tokens : List Token
  problems : List Problem

namespace TokenStream

def ofText (rules : Rules) (text : String) : TokenStream :=
  let segments := Segment.ofText rules text.toList
  ⟨cleanup (Segment.allTokens rules segments), Segment.allProblems rules segments⟩

/-- The tokens of a query, none of one that is too long. -/
def ofQuery (rules : Rules) (query : String) : TokenStream :=
  match rules.maxQueryLength with
  | some limit =>
    if limit < query.length then ⟨[], [.tooLong query.length limit]⟩ else ofText rules query
  | none => ofText rules query

end TokenStream

structure Parsed where
  /-- The query in its normal spelling, which all places refer to. -/
  query : String
  tokens : List Token
  tree : Option Tree
  conditions : List Condition
  problems : List Problem

namespace Parsed

/-- Reads a query under the rules. -/
def ofQuery (rules : Rules) (query : String) : Parsed :=
  let query := Text.normalize query
  let stream := TokenStream.ofQuery rules query
  let tree := Tree.ofTokens? stream.tokens
  { query, tree
    tokens := stream.tokens
    conditions := conditionsOf rules.dropZeroValues tree
    problems := stream.problems }

def hasProblems (p : Parsed) : Bool := !p.problems.isEmpty

/-- The reports of all problems. -/
def reports (p : Parsed) : List String := p.problems.map (·.report p.query)

end Parsed

end RecordQuery
