import RecordQuery.Toml.Lexeme
import RecordQuery.Toml.Scalar
import RecordQuery.Toml.Table

/-!
# TOML documents

A document is read lexeme by lexeme. What has been read is kept as the fields of the document, the
path of the table that pairs go to, and a stack of what is open. Reading a text and then another is
the same as reading the two as one. A document is written line by line: headers of tables, and pairs
whose values are strings, lists of strings, truth values or whole numbers.
-/

namespace RecordQuery.Toml

/-- What a key is written for. -/
inductive Role where
  | header
  /-- The header of a table of an array. -/
  | item
  /-- A pair of the document. -/
  | pair
  /-- A pair in braces. -/
  | field
  deriving DecidableEq, Repr

/-- A pair, array or table that is not complete. -/
inductive Open where
  | pair (key : List String)
  /-- The items so far, last first. -/
  | array (items : List Toml)
  | braces (fields : Fields)
  /-- A table in braces that waits for the value of a key. -/
  | field (key : List String) (fields : Fields)

/-- What has been read last, and so what may come next. -/
inductive Stage where
  /-- The start of a line. -/
  | line
  /-- The bracket that starts a header. -/
  | bracket
  /-- What stands before a part of a key, after the parts `path`. -/
  | key (role : Role) (path : List String)
  /-- A part of a key. -/
  | afterKey (role : Role) (path : List String)
  /-- The first of the two brackets that end the header of a table of an array. -/
  | closing (path : List String)
  /-- A header or a pair. -/
  | lineEnd
  /-- What stands before a value. -/
  | value
  /-- A piece of a scalar. -/
  | scalar (text : List Char)
  /-- A value in an array or in braces. -/
  | next
  deriving DecidableEq, Repr

structure Reader where
  root : Fields := []
  /-- The path of the table that pairs go to. -/
  header : List String := []
  /-- What is open, the innermost first. -/
  stack : List Open := []
  stage : Stage := .line

namespace Reader

/-- The most arrays and tables in braces that may be open at a time. -/
def maxDepth : Nat := 80

/-- The part of a key that a lexeme is. -/
def keyPart? : Lexeme → Option String
  | .string s => some s
  | .bare text =>
    if text.all fun c => c.isAlphanum || c == '_' || c == '-' then some (String.ofList text)
    else none
  | _ => none

/-- After a value that goes to what is open. -/
def complete? (r : Reader) (v : Toml) : Option Reader :=
  match r.stack with
  | .pair key :: outer => do
    let root ← under? (insert? v key) r.header r.root
    return { r with root, stack := outer, stage := .lineEnd }
  | .array items :: outer => some { r with stack := .array (v :: items) :: outer, stage := .next }
  | .field key fields :: outer => do
    return { r with stack := .braces (← insert? v key fields) :: outer, stage := .next }
  | _ => none

/-- After an opening bracket or brace. -/
def open? (r : Reader) (opened : Open) (stage : Stage) : Option Reader :=
  if r.stack.length ≤ maxDepth then some { r with stack := opened :: r.stack, stage } else none

/-- After the bracket that closes an array. -/
def closeArray? (r : Reader) : Option Reader :=
  match r.stack with
  | .array items :: outer => complete? { r with stack := outer } (.array false items.reverse)
  | _ => none

/-- After the brace that closes a table. -/
def closeBraces? (r : Reader) : Option Reader :=
  match r.stack with
  | .braces fields :: outer => complete? { r with stack := outer } (.table .braces fields)
  | _ => none

/-- After a line break between the values of an array. -/
def breakLine? (r : Reader) : Option Reader :=
  match r.stack with
  | .array _ :: _ => some r
  | _ => none

/-- After a key and what ends it. -/
def endKey? (r : Reader) (role : Role) (path : List String) (mark : Char) : Option Reader :=
  match role, mark with
  | _, '.' => some { r with stage := .key role path }
  | .header, ']' => do
    return { r with root := ← header? define? path r.root, header := path, stage := .lineEnd }
  | .item, ']' => some { r with stage := .closing path }
  | .pair, '=' => some { r with stack := [.pair path], stage := .value }
  | .field, '=' =>
    match r.stack with
    | .braces fields :: outer =>
      some { r with stack := .field path fields :: outer, stage := .value }
    | _ => none
  | _, _ => none

/-- After a comma between values. -/
def separate? (r : Reader) : Option Reader :=
  match r.stack with
  | .array _ :: _ => some { r with stage := .value }
  | .braces _ :: _ => some { r with stage := .key .field [] }
  | _ => none

/-- After one more lexeme, which does not belong to a scalar. -/
def stepPlain? (r : Reader) (x : Lexeme) : Option Reader :=
  let part (role : Role) (path : List String) : Option Reader :=
    (keyPart? x).map fun name => { r with stage := .afterKey role (path ++ [name]) }
  match r.stage, x with
  | .line, .blank _ | .line, .lineBreak | .lineEnd, .blank _ => some r
  | .line, .mark '[' => some { r with stage := .bracket }
  | .line, _ => part .pair []
  | .lineEnd, .lineBreak => some { r with stage := .line }
  | .bracket, .mark '[' => some { r with stage := .key .item [] }
  | .bracket, .blank _ => some { r with stage := .key .header [] }
  | .bracket, _ => part .header []
  | .key _ _, .blank _ | .afterKey _ _, .blank _ | .value, .blank _ | .next, .blank _ => some r
  | .key .field [], .mark '\x7d' =>
    match r.stack with
    | .braces [] :: _ => closeBraces? r
    | _ => none
  | .key role path, _ => part role path
  | .afterKey role path, .mark c => endKey? r role path c
  | .closing path, .mark ']' => do
    return { r with root := ← header? grow? path r.root, header := path, stage := .lineEnd }
  | .value, .lineBreak | .next, .lineBreak => breakLine? r
  | .value, .string s | .value, .lines s => complete? r (.string s)
  | .value, .bare text => some { r with stage := .scalar text }
  | .value, .mark '[' => open? r (.array []) .value
  | .value, .mark '\x7b' => open? r (.braces []) (.key .field [])
  | .value, .mark ']' | .next, .mark ']' => closeArray? r
  | .next, .mark ',' => separate? r
  | .next, .mark '\x7d' => closeBraces? r
  | _, _ => none

/-- After a scalar, which may have a blank at its end. -/
def endScalar? (r : Reader) (text : List Char) : Option Reader :=
  let text := if text.getLast? = some ' ' then text.dropLast else text
  (scalar? text).bind (complete? r)

/-- After one more lexeme. A scalar goes on over points, and over one blank since that may stand
between a date and a time. -/
def step? (r : Reader) (x : Lexeme) : Option Reader :=
  match r.stage, x with
  | .scalar text, .bare more => some { r with stage := .scalar (text ++ more) }
  | .scalar text, .mark '.' => some { r with stage := .scalar (text ++ ['.']) }
  | .scalar text, .blank ' ' =>
    if text.contains ' ' then (endScalar? r text).bind (stepPlain? · x)
    else some { r with stage := .scalar (text ++ [' ']) }
  | .scalar text, _ => (endScalar? r text).bind (stepPlain? · x)
  | _, _ => stepPlain? r x

/-- The fields of the document, if it ends here. -/
def finish? (r : Reader) : Option Fields :=
  match r.stage with
  | .line | .lineEnd => some r.root
  | .scalar text => do
    let r ← endScalar? r text
    if r.stage = .lineEnd then some r.root else none
  | _ => none

end Reader

/-- The fields of a document, if the text is one. -/
def read? (text : String) : Option Fields := do
  let lexemes ← Lexeme.all? text.toList
  let r ← lexemes.foldlM Reader.step? {}
  r.finish?

/-! ## Writing -/

def writeString (s : String) : String := String.ofList (Quoted.write s.toList)

/-- A list of several strings has one on each line. -/
def writeStrings : List String → String
  | [] => "[]"
  | [s] => "[" ++ writeString s ++ "]"
  | items => "[\n" ++ String.join (items.map fun s => "    " ++ writeString s ++ ",\n") ++ "]"

def writeBool (b : Bool) : String := if b then "true" else "false"

/-- The line of a pair. -/
def pairLine (key value : String) : String := key ++ " = " ++ value ++ "\n"

/-- The line of a pair that may be left out. -/
def pairLine? (key : String) (write : α → String) : Option α → String
  | some a => pairLine key (write a)
  | none => ""

def headerLine (name : String) : String := "[" ++ name ++ "]\n"

end RecordQuery.Toml
