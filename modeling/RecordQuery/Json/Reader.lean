import RecordQuery.Json.Numeral

/-!
# Reading JSON text

Text is first cut into lexemes. These are then read from left to right with a stack of the arrays
and objects that are open, of which there may be 127 at a time.
-/

namespace RecordQuery.Json

inductive Lexeme where
  | openArray
  | closeArray
  | openObject
  | closeObject
  | comma
  | colon
  | string (s : String)
  /-- A number, a truth value or null. -/
  | scalar (v : Json)

/-! ## Strings -/

/-- A character of a string, or a code unit that was written as an escape. -/
inductive Piece where
  | char (c : Char)
  | unit (n : Nat)

def hexDigit? (c : Char) : Option Nat :=
  if c.isDigit then some (c.toNat - 48)
  else if 'a' ≤ c && c ≤ 'f' then some (c.toNat - 87)
  else if 'A' ≤ c && c ≤ 'F' then some (c.toNat - 55)
  else none

/-- The value of four hexadecimal digits. -/
def unit? (a b c d : Char) : Option Nat := do
  return (((← hexDigit? a) * 16 + (← hexDigit? b)) * 16 + (← hexDigit? c)) * 16 + (← hexDigit? d)

/-- The character that a letter stands for after a backslash. -/
def escaped? : Char → Option Char
  | '"' => some '"'
  | '\\' => some '\\'
  | '/' => some '/'
  | 'b' => some '\x08'
  | 'f' => some '\x0c'
  | 'n' => some '\n'
  | 'r' => some '\r'
  | 't' => some '\t'
  | _ => none

/-- The pieces of a string up to its closing quote, and the number of characters with it. -/
def pieces? : List Char → Option (List Piece × Nat)
  | '"' :: _ => some ([], 1)
  | '\\' :: 'u' :: a :: b :: c :: d :: rest => do
    let n ← unit? a b c d
    let (pieces, length) ← pieces? rest
    return (.unit n :: pieces, length + 6)
  | '\\' :: c :: rest => do
    let c ← escaped? c
    let (pieces, length) ← pieces? rest
    return (.char c :: pieces, length + 2)
  | c :: rest => do
    if c = '\\' || c.toNat < 32 then none
    let (pieces, length) ← pieces? rest
    return (.char c :: pieces, length + 1)
  | [] => none

def isHighSurrogate (n : Nat) : Bool := 0xD800 ≤ n && n < 0xDC00

def isLowSurrogate (n : Nat) : Bool := 0xDC00 ≤ n && n < 0xE000

/-- The characters of the pieces; a surrogate has to be one of a pair. -/
def join? : List Piece → Option (List Char)
  | [] => some []
  | .char c :: rest => (join? rest).map (c :: ·)
  | .unit high :: .unit low :: rest =>
    if isHighSurrogate high && isLowSurrogate low then
      (join? rest).map (Char.ofNat (0x10000 + (high - 0xD800) * 1024 + (low - 0xDC00)) :: ·)
    else if isHighSurrogate high || isLowSurrogate high then none
    else (join? (.unit low :: rest)).map (Char.ofNat high :: ·)
  | .unit n :: rest =>
    if isHighSurrogate n || isLowSurrogate n then none
    else (join? rest).map (Char.ofNat n :: ·)

/-! ## Lexemes -/

def isNumeralChar (c : Char) : Bool :=
  c.isDigit || c == '-' || c == '+' || c == '.' || c == 'e' || c == 'E'

/-- The lexeme at the start of a text, and the number of its characters; none in place of the lexeme
at white space. -/
def lexemeAt? : List Char → Option (Option Lexeme × Nat)
  | [] => none
  | c :: rest =>
    match c with
    | ' ' | '\n' | '\t' | '\r' => some (none, 1)
    | '[' => some (some .openArray, 1)
    | ']' => some (some .closeArray, 1)
    | '\x7b' => some (some .openObject, 1)
    | '\x7d' => some (some .closeObject, 1)
    | ',' => some (some .comma, 1)
    | ':' => some (some .colon, 1)
    | '"' => do
      let (pieces, length) ← pieces? rest
      let text ← join? pieces
      return (some (.string (String.ofList text)), length + 1)
    | 't' => if rest.take 3 = ['r', 'u', 'e'] then some (some (.scalar (.bool true)), 4) else none
    | 'f' =>
      if rest.take 4 = ['a', 'l', 's', 'e'] then some (some (.scalar (.bool false)), 5) else none
    | 'n' => if rest.take 3 = ['u', 'l', 'l'] then some (some (.scalar .null), 4) else none
    | _ => do
      let run := (c :: rest).takeWhile isNumeralChar
      let n ← numeral? run
      return (some (.scalar (.number n)), run.length)

/-- The lexemes of a text without its first `skip` characters. -/
def lexemesFrom? : (skip : Nat) → List Char → Option (List Lexeme)
  | _, [] => some []
  | skip + 1, _ :: rest => lexemesFrom? skip rest
  | 0, c :: rest => do
    let (lexeme, length) ← lexemeAt? (c :: rest)
    let others ← lexemesFrom? (length - 1) rest
    return match lexeme with
      | some x => x :: others
      | none => others

/-! ## Values -/

/-- An array or object that is not closed yet. -/
inductive Open where
  /-- The items so far, last first. -/
  | array (items : List Json)
  | object (fields : List (String × Json))
  /-- An object after a name, for the value of that field. -/
  | field (name : String) (fields : List (String × Json))

/-- What may come next. -/
inductive Expected where
  /-- A value; with `closing`, also the end of the array that was just opened. -/
  | value (closing : Bool)
  /-- The name of a field; with `closing`, also the end of the object that was just opened. -/
  | name (closing : Bool)
  | colon
  /-- A comma or the end of what is open; with nothing open, the end of the text. -/
  | next

/-- The stack after a value is complete. -/
def complete? (v : Json) : List Open → Option (List Open)
  | .array items :: rest => some (.array (v :: items) :: rest)
  | .field name fields :: rest => some (.object (insertField name v fields) :: rest)
  | _ => none

/-- The most arrays and objects that may be open at a time. -/
def maxDepth : Nat := 127

/-- The value of the lexemes, with the stack of what is open, the innermost first, and the value
that is complete if nothing is open any more. -/
def parse? : (stack : List Open) → (expected : Expected) → (done : Option Json) → List Lexeme →
    Option Json
  | [], .next, done, [] => done
  | _, _, _, [] => none
  | stack, expected, done, x :: rest =>
    let finish (v : Json) (stack : List Open) : Option Json :=
      if stack.isEmpty then parse? [] .next (some v) rest
      else (complete? v stack).bind fun stack => parse? stack .next none rest
    match expected, x with
    | .value _, .scalar v => finish v stack
    | .value _, .string s => finish (.string s) stack
    | .value _, .openArray =>
      if stack.length < maxDepth then parse? (.array [] :: stack) (.value true) done rest else none
    | .value _, .openObject =>
      if stack.length < maxDepth then parse? (.object [] :: stack) (.name true) done rest else none
    | .value true, .closeArray =>
      match stack with
      | .array items :: outer => finish (.array items.reverse) outer
      | _ => none
    | .name _, .string name =>
      match stack with
      | .object fields :: outer => parse? (.field name fields :: outer) .colon done rest
      | _ => none
    | .name true, .closeObject =>
      match stack with
      | .object fields :: outer => finish (.object fields) outer
      | _ => none
    | .colon, .colon => parse? stack (.value false) done rest
    | .next, .comma =>
      match stack with
      | .array _ :: _ => parse? stack (.value false) done rest
      | .object _ :: _ => parse? stack (.name false) done rest
      | _ => none
    | .next, .closeArray =>
      match stack with
      | .array items :: outer => finish (.array items.reverse) outer
      | _ => none
    | .next, .closeObject =>
      match stack with
      | .object fields :: outer => finish (.object fields) outer
      | _ => none
    | _, _ => none

/-- The value of a text, if it is JSON. -/
def read? (text : String) : Option Json :=
  (lexemesFrom? 0 text.toList).bind (parse? [] (.value false) none)

end RecordQuery.Json
