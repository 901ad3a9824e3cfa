import RecordQuery.Toml.Quoted

/-!
# Lexemes of TOML documents

A document is cut into blanks, line breaks, punctuation, strings and runs of other characters. A
comment counts as a blank, for it is always followed by a line break or the end of the document.
-/

namespace RecordQuery.Toml

inductive Lexeme where
  /-- A blank, or a comment by its first character. -/
  | blank (c : Char)
  | lineBreak
  /-- One of the characters `. = , [ ] { }`. -/
  | mark (c : Char)
  | string (s : String)
  /-- A string in triple quotes. -/
  | lines (s : String)
  /-- A run of characters of bare keys, numbers, dates and times. -/
  | bare (text : List Char)
  deriving DecidableEq, Repr

namespace Lexeme

def isMark (c : Char) : Bool :=
  c == '.' || c == '=' || c == ',' || c == '[' || c == ']' || c == '\x7b' || c == '\x7d'

def isBare (c : Char) : Bool := c.isAlphanum || c == '_' || c == '-' || c == '+' || c == ':'

def ofReading (make : String → Lexeme) (delimiter : Nat) (r : Quoted.Reading) :
    Option (Lexeme × Nat) :=
  r.map fun (text, length) => (make (String.ofList text), delimiter + length)

/-- The lexeme at the start of a text, and the number of its characters. -/
def at? : List Char → Option (Lexeme × Nat)
  | [] => none
  | '"' :: '"' :: '"' :: rest => ofReading .lines 3 (Quoted.lines? (Quoted.basicLines? 0) rest)
  | '\'' :: '\'' :: '\'' :: rest => ofReading .lines 3 (Quoted.lines? Quoted.literalLines? rest)
  | '"' :: rest => ofReading .string 1 (Quoted.basic? rest)
  | '\'' :: rest => ofReading .string 1 (Quoted.literal? rest)
  | '\r' :: '\n' :: _ => some (.lineBreak, 2)
  | c :: rest =>
    if c = '\n' then some (.lineBreak, 1)
    else if c = ' ' || c = '\t' then some (.blank c, 1)
    else if isMark c then some (.mark c, 1)
    else if c = '#' then
      let comment := rest.takeWhile fun c => c != '\n' && c != '\r'
      if comment.any Quoted.isControl then none else some (.blank c, 1 + comment.length)
    else if isBare c then
      let run := c :: rest.takeWhile isBare
      some (.bare run, run.length)
    else none

/-- The lexemes of a text without its first `skip` characters. -/
def allFrom? : (skip : Nat) → List Char → Option (List Lexeme)
  | _, [] => some []
  | skip + 1, _ :: rest => allFrom? skip rest
  | 0, c :: rest => do
    let (lexeme, length) ← at? (c :: rest)
    return lexeme :: (← allFrom? (length - 1) rest)

/-- Whether each carriage return stands before a line feed. -/
def breaksPaired : List Char → Bool
  | [] => true
  | ['\r'] => false
  | '\r' :: c :: rest => c == '\n' && breaksPaired (c :: rest)
  | _ :: rest => breaksPaired rest

/-- The lexemes of a document, which may start with a byte order mark. -/
def all? (text : List Char) : Option (List Lexeme) :=
  let text := match text with
    | '\ufeff' :: rest => rest
    | rest => rest
  if breaksPaired text then allFrom? 0 text else none

end Lexeme

end RecordQuery.Toml
