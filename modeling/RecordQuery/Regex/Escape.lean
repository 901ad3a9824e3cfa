import RecordQuery.Regex.Flags

/-!
# Escapes

What a backslash and the characters after it stand for in a pattern: a character, a class or a
condition.
-/

namespace RecordQuery.Regex

/-- One thing that a pattern may name. -/
inductive Primitive where
  /-- A character; `byte` if it was written as two hexadecimal digits. -/
  | literal (c : Char) (byte : Bool)
  | characters (c : CharClass)
  | look (l : Look)

namespace Escape

def hexDigit? (c : Char) : Option Nat :=
  if c.isDigit then some (c.toNat - 48)
  else if 'a' ≤ c && c ≤ 'f' then some (c.toNat - 87)
  else if 'A' ≤ c && c ≤ 'F' then some (c.toNat - 55)
  else none

/-- The character with a code point, if there is one. -/
def char? (n : Nat) : Option Char :=
  if n.isValidChar then some (Char.ofNat n) else none

/-- Exactly `count` hexadecimal digits, after a value `n`. -/
def hexRun? (flags : Flags) : (count n : Nat) → List Char →
    Option (Nat × List Char)
  | 0, n, text => some (n, text)
  | count + 1, n, c :: rest => do
    let d ← hexDigit? c
    hexRun? flags count (16 * n + d) (flags.skip rest)
  | _, _, [] => none

/-- The characters up to a closing brace, but for blanks and comments where they mean nothing. -/
def braced? (spaced inComment : Bool) : List Char → Option (List Char × List Char)
  | [] => none
  | c :: rest =>
    if inComment then braced? spaced (c != '\n') rest
    else if spaced && Text.isBlank c then braced? spaced false rest
    else if spaced && c = '#' then braced? spaced true rest
    else if c = '\x7d' then some ([], rest)
    else (braced? spaced false rest).map fun (run, rest) => (c :: run, rest)

/-- A code point in hexadecimal: `count` digits, or any number of them between braces. -/
def codePoint? (flags : Flags) (count : Nat) (text : List Char) : Option (Primitive × List Char) :=
  match flags.skip text with
  | '\x7b' :: rest => do
    let (run, rest) ← braced? flags.spaced false rest
    if run.isEmpty then none
    let digits ← run.mapM hexDigit?
    let c ← char? (digits.foldl (fun n d => 16 * n + d) 0)
    return (.literal c false, rest)
  | text => do
    let (n, rest) ← hexRun? flags count 0 text
    let c ← char? n
    return (.literal c (count == 2), rest)

/-- The parts of a text before and after the first occurrence of `mark`. -/
def splitAt? (mark : List Char) : List Char → Option (List Char × List Char)
  | [] => none
  | c :: rest =>
    if mark.isPrefixOf (c :: rest) then some ([], (c :: rest).drop mark.length)
    else (splitAt? mark rest).map fun (before, after) => (c :: before, after)

/-- The class that a name between braces stands for, and whether it is negated once more. -/
def propertyOf? (name : List Char) : Option (CharClass × Bool) :=
  let valued (negated : Bool) (parts : List Char × List Char) : Option (CharClass × Bool) :=
    (Property.valued? (String.ofList parts.1) (String.ofList parts.2)).map (·, negated)
  match splitAt? ['!', '='] name with
  | some parts => valued true parts
  | none =>
    match splitAt? [':'] name with
    | some parts => valued false parts
    | none =>
      match splitAt? ['='] name with
      | some parts => valued false parts
      | none => (Property.named? (String.ofList name)).map (·, false)

/-- A class by property, after the letter `p` or, negated, `P`. -/
def property? (flags : Flags) (negated : Bool) (text : List Char) :
    Option (Primitive × List Char) := do
  if !flags.unicode then none
  let result (name : List Char) (rest : List Char) : Option (Primitive × List Char) := do
    let (c, again) ← propertyOf? name
    return (.characters ((flags.fold c).complementIf (negated != again)), rest)
  match flags.skip text with
  | '\x7b' :: rest =>
    let (name, rest) ← braced? flags.spaced false rest
    result name rest
  | c :: rest => if c = '\\' then none else result [c] rest
  | [] => none

/-- A class by its letter, whose capital stands for the complement. -/
def lettered? (flags : Flags) (unicode ascii : CharClass) (negated : Bool) :
    Option Primitive :=
  if flags.unicode then some (.characters (unicode.complementIf negated))
  else if negated then none
  else some (.characters ascii)

/-- What follows `\b` between braces to name the start or end of a word; none if the braces count
repetitions instead. -/
def wordEdge? (flags : Flags) (text : List Char) : Option (Option (Look × List Char)) :=
  match text with
  | '\x7b' :: rest =>
    let isName (c : Char) : Bool := c.isAlpha || c == '-'
    match flags.skip rest with
    | [] => none
    | c :: _ =>
      if !isName c then some none
      else do
        let (name, after) ← braced? flags.spaced false rest
        match String.ofList name with
        | "start" => return some (.wordStart flags.unicode, after)
        | "end" => return some (.wordEnd flags.unicode, after)
        | "start-half" => return some (.wordStartHalf flags.unicode, after)
        | "end-half" => return some (.wordEndHalf flags.unicode, after)
        | _ => none
  | _ => some none

/-- A letter that stands for a control character. -/
def control? : Char → Option Char
  | 'a' => some '\x07'
  | 'f' => some '\x0c'
  | 't' => some '\t'
  | 'n' => some '\n'
  | 'r' => some '\r'
  | 'v' => some '\x0b'
  | _ => none

/-- What the text after a backslash stands for. All characters of ASCII but letters, digits and
angle brackets stand for themselves. -/
def read? (flags : Flags) (text : List Char) : Option (Primitive × List Char) :=
  match text with
  | [] => none
  | c :: rest =>
    let look (l : Look) : Option (Primitive × List Char) := some (.look l, rest)
    let lettered (unicode ascii : CharClass) (negated : Bool) :=
      (lettered? flags unicode ascii negated).map (·, rest)
    match c with
    | 'x' => codePoint? flags 2 rest
    | 'u' => codePoint? flags 4 rest
    | 'U' => codePoint? flags 8 rest
    | 'p' => property? flags false rest
    | 'P' => property? flags true rest
    | 'd' => lettered Property.digit Property.asciiDigit false
    | 'D' => lettered Property.digit Property.asciiDigit true
    | 's' => lettered Property.space Property.asciiSpace false
    | 'S' => lettered Property.space Property.asciiSpace true
    | 'w' => lettered Property.word Property.asciiWord false
    | 'W' => lettered Property.word Property.asciiWord true
    | 'A' => look .textStart
    | 'z' => look .textEnd
    | 'b' => do
      match ← wordEdge? flags rest with
      | some (l, after) => return (.look l, after)
      | none => look (.wordBoundary flags.unicode)
    | 'B' => look (.notWordBoundary flags.unicode)
    | '<' => look (.wordStart flags.unicode)
    | '>' => look (.wordEnd flags.unicode)
    | _ =>
      match control? c with
      | some control => some (.literal control false, rest)
      | none => if c.toNat < 128 && !c.isAlphanum then some (.literal c false, rest) else none

end Escape

end RecordQuery.Regex
