import RecordQuery.Number.Layout
import RecordQuery.Query.Comparison
import RecordQuery.Text.Quoted
import RecordQuery.Time.Instant

/-!
# Terms

A term is the smallest test that a query can make: text in one of three forms, in one field or in
any, or a comparison of a field with a number or an instant.
-/

namespace RecordQuery

/-- How the text of a term is written: bare, between quotes, or between slashes. -/
inductive Form where
  | word
  | phrase
  | regex
  deriving DecidableEq, Repr

inductive Term where
  | text (key : Option String) (form : Form) (text : String)
  | number (key : String) (comparison : Comparison) (value : Number)
  | date (key : String) (comparison : Comparison) (value : Instant)
  deriving DecidableEq

namespace Term

/-- The field that the term reads; none for every field. -/
def key? : Term → Option String
  | text key _ _ => key
  | number key _ _ | date key _ _ => some key

def comparison? : Term → Option Comparison
  | text .. => none
  | number _ c _ | date _ c _ => some c

/-- The name of the kind of term. -/
def kindName : Term → String
  | text none .word _ => "word"
  | text none .phrase _ => "phrase"
  | text none .regex _ => "regex"
  | text (some _) .word _ => "keyword"
  | text (some _) .phrase _ => "keyword_phrase"
  | text (some _) .regex _ => "keyword_regex"
  | number .. => "keyword_numeric"
  | date .. => "keyword_date"

def isRegex : Term → Bool
  | text _ .regex _ => true
  | _ => false

def isNumeric : Term → Bool
  | number .. => true
  | _ => false

def isDate : Term → Bool
  | date .. => true
  | _ => false

/-- The value of the term by itself. -/
def valueText : Term → String
  | text _ _ s => s
  | number _ _ x => x.plain
  | date _ _ x => x.format

/-- The value of the term in the form in which it was written. -/
def writtenValue : Term → String
  | text _ .phrase s => Text.quoted s
  | text _ .regex s => "/" ++ s ++ "/"
  | t => t.valueText

/-- Text that holds no character tests nothing. -/
def isEmpty : Term → Bool
  | text _ _ s => s.isEmpty
  | _ => false

def isZero : Term → Bool
  | number _ _ x => x.isZero
  | _ => false

/-- Kind, key, comparison and value, as a leaf of a tree shows them. -/
def describe (t : Term) : String :=
  let key := match t.key? with
    | some k => " " ++ k
    | none => ""
  let comparison := match t.comparison? with
    | some c => " " ++ c.spelling
    | none => ""
  t.kindName ++ key ++ comparison ++ " " ++ t.writtenValue

/-- Key, comparison and value, as a token shows them. -/
def inBrackets (t : Term) : String :=
  match t.key?, t.comparison? with
  | some k, some c => k ++ " " ++ c.spelling ++ " " ++ t.writtenValue
  | some k, none => k ++ ":" ++ t.writtenValue
  | none, _ => t.writtenValue

end Term

end RecordQuery
