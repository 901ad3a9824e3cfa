import RecordQuery.Query.Literal
import RecordQuery.Query.Problem
import RecordQuery.Query.Token
import RecordQuery.Text.Alphanumeric
import RecordQuery.Text.Parts

/-!
# Matches

What can be read at one place of a query. Six kinds of match are tried: the start and end of a
group, a negation, a range, a comparison and a term. The longest wins, and of two of one length the
one named first.
-/

namespace RecordQuery

/-- What a match stands for. -/
inductive Match.Reading where
  | tokens (kinds : List Token.Kind)
  /-- A literal that names no value. -/
  | malformed

/-- Text read at one place. -/
structure Match where
  /-- The number of characters. -/
  length : Nat
  /-- The key that the rules have to accept. -/
  key : Option String := none
  /-- The text after the key. -/
  value : String := ""
  reading : Match.Reading

namespace Match

/-- A match without a key, of one token. -/
def sign (length : Nat) (kind : Token.Kind) : Match := { length, reading := .tokens [kind] }

/-- The first of the greatest by `size`. -/
def longest {α : Type} (size : α → Nat) (candidates : List (Option α)) : Option α :=
  candidates.foldl (fun best next =>
    match best, next with
    | some b, some n => if size b < size n then some n else some b
    | some b, none => some b
    | none, n => n) none

/-! ## Keys, operators and values -/

def isKeyStart (c : Char) : Bool := Text.isAlphanumeric c || c == '_'

def isKeyChar (c : Char) : Bool := Text.isAlphanumeric c || c == '_' || c == '.' || c == '-'

/-- A character of a bare word. -/
def isWordChar (c : Char) : Bool :=
  !Text.isBlank c &&
    !(c == '(' || c == ')' || c == '"' || c == '~' || c == '&' || c == '|' || c == '^' ||
      c == '\x7b' || c == '\x7d' || c == '[' || c == ']' || c == ';' || c == '\\' || c == '\x60' ||
      c == '<' || c == '>')

/-- The key at the start of the text, and the rest. -/
def key? : List Char → Option (List Char × List Char)
  | c :: rest =>
    if isKeyStart c then some (c :: rest.takeWhile isKeyChar, rest.dropWhile isKeyChar) else none
  | [] => none

/-- The comparison at the start of the text, and the rest. -/
def comparison? : List Char → Option (Comparison × List Char)
  | '>' :: '=' :: rest => some (.atLeast, rest)
  | '<' :: '=' :: rest => some (.atMost, rest)
  | ':' :: rest => some (.colon, rest)
  | '=' :: rest => some (.equal, rest)
  | '>' :: rest => some (.greater, rest)
  | '<' :: rest => some (.less, rest)
  | _ => none

/-- The value of a term as written. -/
structure Value where
  form : Form
  /-- The text without its delimiters. -/
  text : List Char

/-- The characters of a value with its delimiters. -/
def Value.length (v : Value) : Nat :=
  match v.form with
  | .word => v.text.length
  | .phrase | .regex => v.text.length + 2

/-- Text up to the next quote. -/
def phrase? : List Char → Option Value
  | '"' :: rest =>
    if rest.contains '"' then some ⟨.phrase, rest.takeWhile (· != '"')⟩ else none
  | _ => none

/-- Text up to the next slash that no backslash stands before. -/
def regexBody? : List Char → Option (List Char)
  | '\\' :: c :: rest => (regexBody? rest).map ('\\' :: c :: ·)
  | ['\\'] => none
  | '/' :: _ => some []
  | c :: rest => (regexBody? rest).map (c :: ·)
  | [] => none

def regex? : List Char → Option Value
  | '/' :: rest => (regexBody? rest).map (⟨.regex, ·⟩)
  | _ => none

/-- A run of word characters that does not start with a negation; `&` and `|` stand alone. -/
def word? : List Char → Option Value
  | c :: rest =>
    if c = '&' || c = '|' then some ⟨.word, [c]⟩
    else if c = '-' || c = '!' then none
    else if isWordChar c then some ⟨.word, c :: rest.takeWhile isWordChar⟩
    else none
  | [] => none

/-- The longest value at the start of the text. -/
def value? (text : List Char) : Option Value :=
  longest Value.length [phrase? text, regex? text, word? text]

/-! ## The six kinds of match -/

/-- `(`, or `-(` or `!(`, where a group may start: at the start of the query, after a blank or after
another group's start. -/
def openGroup? (before : Option Char) (text : List Char) : Option Match :=
  if before.all fun c => Text.isBlank c || c == '(' then
    match text with
    | '(' :: _ => some (sign 1 (.openGroup false))
    | '-' :: '(' :: _ | '!' :: '(' :: _ => some (sign 2 (.openGroup true))
    | _ => none
  else none

def closeGroup? : List Char → Option Match
  | ')' :: _ => some (sign 1 .closeGroup)
  | _ => none

/-- `-` or `!`, unless a parenthesis follows. -/
def negation? : List Char → Option Match
  | c :: rest =>
    if (c = '-' || c = '!') && rest.head? ≠ some '(' then some (sign 1 .negation) else none
  | [] => none

/-- The parts before and after the first two points in a row. -/
def splitRange? : List Char → Option (List Char × List Char)
  | '.' :: '.' :: rest => some ([], rest)
  | c :: rest => (splitRange? rest).map fun (low, high) => (c :: low, high)
  | [] => none

/-- Both bounds of a period, as one group. -/
def periodTokens (key : String) (first last : Instant) : List Token.Kind :=
  [.openGroup false, .term (.date key .atLeast first), .term (.date key .atMost last), .closeGroup]

/-- What a range between two literals stands for; nothing unless both are of one kind. -/
def rangeReading? (key : String) (low high : Literal.Reading) : Option Reading :=
  match low, high with
  | .valid (.number a), .valid (.number b) =>
    some (.tokens [.term (.number key .atLeast a), .term (.number key .atMost b)])
  | .valid (.period a), .valid (.period b) => some (.tokens (periodTokens key a.first b.last))
  | .neither, _ | _, .neither | .valid _, .valid _ => none
  | _, _ => some .malformed

/-- A key, a colon or equals sign, and two literals with two points between them. -/
def range? (text : List Char) : Option Match := do
  let (key, rest) ← key? text
  let (comparison, rest) ← comparison? rest
  if !comparison.isEquality then none
  let literal := rest.takeWhile Literal.isLiteralChar
  let (low, high) ← splitRange? literal
  let key' := String.ofList key
  let reading ← rangeReading? key' (Literal.classify low) (Literal.classify high)
  return {
    length := key.length + 1 + literal.length
    key := key', value := String.ofList literal, reading }

/-- What a comparison with a period stands for. `<` and `>=` compare with its first millisecond,
`<=` and `>` with its last, and equality means to lie within it. -/
def dateTokens (key : String) (c : Comparison) (p : Period) : List Token.Kind :=
  match c with
  | .less | .atLeast => [.term (.date key c p.first)]
  | .atMost | .greater => [.term (.date key c p.last)]
  | .colon | .equal =>
    if p.timed then [.term (.date key c p.first)] else periodTokens key p.first p.last

/-- What a comparison with a literal stands for. -/
def comparisonReading? (key : String) (c : Comparison) : Literal.Reading → Option Reading
  | .valid (.number x) => some (.tokens [.term (.number key c x)])
  | .valid (.period p) => some (.tokens (dateTokens key c p))
  | .malformed => some .malformed
  | .neither => none

/-- A key, a comparison and a literal. -/
def compared? (text : List Char) : Option Match := do
  let (key, rest) ← key? text
  let (comparison, rest) ← comparison? rest
  let literal := rest.takeWhile Literal.isLiteralChar
  if literal.isEmpty then none
  let key' := String.ofList key
  let reading ← comparisonReading? key' comparison (Literal.classify literal)
  return {
    length := key.length + comparison.spelling.length + literal.length
    key := key', value := String.ofList literal, reading }

/-- A term of a value under a key, or under none. -/
def ofValue (length : Nat) (key : Option String) (v : Value) : Match :=
  let text := String.ofList v.text
  { length, key, value := text, reading := .tokens [.term (.text key v.form text)] }

/-- A key, a colon and a value. -/
def keyed? (text : List Char) : Option Match := do
  let (key, rest) ← key? text
  match rest with
  | ':' :: rest =>
    let v ← value? rest
    return ofValue (key.length + 1 + v.length) (some (String.ofList key)) v
  | _ => none

/-- A value without a key: a joiner if it is a word that spells one, else a term under the default
key. -/
def unkeyed? (rules : Rules) (text : List Char) : Option Match := do
  let v ← value? text
  let joiner := if v.form = .word then Joiner.ofWord? (String.ofList v.text) else none
  match joiner with
  | some j => return sign v.length (.joiner j)
  | none => return ofValue v.length rules.defaultKey v

/-- A value with its key if it has one. -/
def term? (rules : Rules) (text : List Char) : Option Match :=
  keyed? text <|> unkeyed? rules text

/-- The match at the start of `text`, before which `before` stands. -/
def at? (rules : Rules) (before : Option Char) (text : List Char) : Option Match :=
  longest Match.length
    [openGroup? before text, closeGroup? text, negation? text, range? text, compared? text,
      term? rules text]

end Match

end RecordQuery
