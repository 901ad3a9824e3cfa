/-!
# Rules and problems

The settings under which a query is read, and what they and the grammar find fault with. Reading a query
never fails: what cannot be used is left out and reported with its place, and where the cause is known,
with a hint.
-/

namespace RecordQuery

/-! ## Rules -/

structure Rules where
  /-- The keys that terms may have; none for every key. -/
  validKeys : Option (List String) := none
  /-- The key of terms written without one. -/
  defaultKey : Option String := none
  /-- Whether numerals and dates that name no value are reported. -/
  strictLiterals : Bool := false
  /-- Whether conditions on the number zero are left out, as those on empty text are. -/
  dropZeroValues : Bool := false
  /-- The most characters that a query may have. -/
  maxQueryLength : Option Nat := none
  deriving DecidableEq, Repr

namespace Rules

def accepts (rules : Rules) (key : String) : Bool :=
  rules.validKeys.all (·.contains key)

/-- A key is accepted if it stands in the list of keys, or there is no list. -/
theorem accepts_iff {rules : Rules} {key : String} :
    rules.accepts key = true ↔ ∀ keys ∈ rules.validKeys, key ∈ keys := by
  simp only [accepts, Option.all_eq_true, List.contains_iff_mem, Option.mem_def]

end Rules

/-! ## Problems -/

namespace Problem

inductive Cause where
  /-- Text that is no token; it was passed over. -/
  | unexpected (text : String)
  /-- A term with a key that the rules do not allow. -/
  | invalidKey (key value : String)
  /-- A numeral or date that names no value. -/
  | invalidLiteral (key : Option String) (value : String)
  /-- A query of more characters than the rules allow; nothing of it was read. -/
  | tooLong (length limit : Nat)
  deriving DecidableEq, Repr

namespace Cause

/-- The name of the kind of problem. -/
def name : Cause → String
  | unexpected _ => "syntax"
  | invalidKey .. => "invalid_key"
  | invalidLiteral .. => "invalid_literal"
  | tooLong .. => "query_too_long"

def message : Cause → String
  | unexpected _ => "Unexpected syntax"
  | invalidKey key _ => "Invalid key: " ++ key
  | invalidLiteral _ value => "Invalid number or date: " ++ value
  | tooLong length limit =>
    "Query is " ++ toString length ++ " characters long; the limit is " ++ toString limit

def key? : Cause → Option String
  | invalidKey key _ => some key
  | invalidLiteral key _ => key
  | _ => none

def value? : Cause → Option String
  | unexpected text => some text
  | invalidKey _ value | invalidLiteral _ value => some value
  | tooLong .. => none

/-- What may mend the problem. An unexpected quote or slash was not closed, and an unexpected
parenthesis was taken for a part of a word. -/
def hint? : Cause → Option String
  | unexpected text =>
    match text.toList.head? with
    | some '"' => some "Add a closing quote (\") to complete the phrase"
    | some '/' => some "Add a closing slash (/) to complete the regex"
    | some '(' => some "Put whitespace before an opening parenthesis"
    | _ => none
  | invalidKey .. => some "Only configured field names may be used as keys"
  | invalidLiteral .. =>
    some "Dates are written YYYY, YYYY-MM, YYYY-MM-DD or YYYY-MM-DDTHH:MM[:SS]"
  | tooLong .. => none

end Cause

end Problem

/-- A problem and the place in the query that it is reported at. -/
structure Problem where
  cause : Problem.Cause
  position : Nat
  deriving DecidableEq, Repr

namespace Problem

/-- A query of `length` characters is reported where it exceeds the limit. -/
def tooLong (length limit : Nat) : Problem := ⟨.tooLong length limit, limit⟩

def describe (p : Problem) : String :=
  p.cause.message ++ " at position " ++ toString p.position

/-- The message, the query with a caret under the place, and the hint. A place beyond the end of the
query is shown at its end. -/
def report (query : String) (p : Problem) : String :=
  let column := min p.position query.length
  let hint := match p.cause.hint? with
    | some h => "\nhint: " ++ h
    | none => ""
  "query error: " ++ p.cause.message ++ "\n  " ++ query ++ "\n  " ++
    String.ofList (List.replicate column ' ') ++ "^" ++ hint

end Problem

end RecordQuery
