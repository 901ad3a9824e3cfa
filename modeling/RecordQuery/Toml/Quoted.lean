import RecordQuery.Json.Reader
import RecordQuery.Text.Parts

/-!
# Strings in TOML documents

A string is quoted in one of four forms: basic, in double quotes and with escapes, or literal, in
single quotes and without, and each of them on one line in single delimiters or on several lines in
triple ones. A string is written in the first form that it fits without an escape other than that of
the tab, and in a basic form with escapes if there is none.
-/

namespace RecordQuery.Toml.Quoted

/-! ## Reading -/

/-- The control characters that stand in no string; the tab is not one of them. -/
def isControl (c : Char) : Bool := c != '\t' && (c.toNat < 32 || c.toNat = 127)

/-- The character that a letter stands for after a backslash. -/
def escaped? : Char → Option Char
  | '"' => some '"'
  | '\\' => some '\\'
  | 'b' => some '\x08'
  | 't' => some '\t'
  | 'n' => some '\n'
  | 'f' => some '\x0c'
  | 'r' => some '\r'
  | _ => none

/-- The character whose number is written in hexadecimal digits. -/
def character? (digits : List Char) : Option Char := do
  let values ← digits.mapM Json.hexDigit?
  let n := values.foldl (fun n d => 16 * n + d) 0
  if n.isValidChar then some (Char.ofNat n) else none

/-- A reading of a string: its characters, and the number of characters read with the closing
delimiter. -/
abbrev Reading := Option (List Char × Nat)

/-- A reading that starts `length` characters later, with more characters in front. -/
def Reading.after (front : List Char) (length : Nat) (r : Reading) : Reading :=
  r.map fun (text, n) => (front ++ text, length + n)

/-- A basic string on one line, after its opening quote. -/
def basic? : List Char → Reading
  | '"' :: _ => some ([], 1)
  | '\\' :: 'u' :: a :: b :: c :: d :: rest =>
    (character? [a, b, c, d]).bind fun x => (basic? rest).after [x] 6
  | '\\' :: 'U' :: a :: b :: c :: d :: e :: f :: g :: h :: rest =>
    (character? [a, b, c, d, e, f, g, h]).bind fun x => (basic? rest).after [x] 10
  | '\\' :: c :: rest => (escaped? c).bind fun x => (basic? rest).after [x] 2
  | c :: rest => if c = '\\' || isControl c then none else (basic? rest).after [c] 1
  | [] => none

/-- A literal string on one line, after its opening quote. -/
def literal? : List Char → Reading
  | [] => none
  | c :: rest =>
    if c = '\'' then some ([], 1) else if isControl c then none else (literal? rest).after [c] 1

def isGap (c : Char) : Bool := c == ' ' || c == '\t' || c == '\n' || c == '\r'

/-- The length of the blanks and line breaks that follow a backslash at the end of a line. -/
def gapLength? (text : List Char) : Option Nat :=
  let rest := text.dropWhile fun c => c == ' ' || c == '\t'
  if rest.head? = some '\n' || rest.head? = some '\r' then some (text.takeWhile isGap).length
  else none

/-- Control characters that stand in no string on several lines. -/
def isControlInLines (c : Char) : Bool := c != '\n' && c != '\r' && isControl c

/-- A basic string on several lines after its delimiter and a line break, without the first `skip`
characters. Up to two quotes may stand before the closing delimiter. -/
def basicLines? : (skip : Nat) → List Char → Reading
  | skip + 1, _ :: rest => (basicLines? skip rest).after [] 1
  | _ + 1, [] => none
  | 0, '"' :: '"' :: '"' :: rest =>
    match rest with
    | '"' :: '"' :: _ => some (['"', '"'], 5)
    | '"' :: _ => some (['"'], 4)
    | _ => some ([], 3)
  | 0, '\\' :: 'u' :: a :: b :: c :: d :: rest =>
    (character? [a, b, c, d]).bind fun x => (basicLines? 0 rest).after [x] 6
  | 0, '\\' :: 'U' :: a :: b :: c :: d :: e :: f :: g :: h :: rest =>
    (character? [a, b, c, d, e, f, g, h]).bind fun x => (basicLines? 0 rest).after [x] 10
  | 0, '\\' :: c :: rest =>
    match gapLength? (c :: rest) with
    | some n => (basicLines? (n - 1) rest).after [] 2
    | none => (escaped? c).bind fun x => (basicLines? 0 rest).after [x] 2
  | 0, c :: rest =>
    if c = '\\' || isControlInLines c then none else (basicLines? 0 rest).after [c] 1
  | 0, [] => none

/-- A literal string on several lines after its delimiter and a line break. -/
def literalLines? : List Char → Reading
  | '\'' :: '\'' :: '\'' :: rest =>
    match rest with
    | '\'' :: '\'' :: _ => some (['\'', '\''], 5)
    | '\'' :: _ => some (['\''], 4)
    | _ => some ([], 3)
  | c :: rest => if isControlInLines c then none else (literalLines? rest).after [c] 1
  | [] => none

/-- The length of a line break at the start of a text. -/
def breakLength : List Char → Nat
  | '\n' :: _ => 1
  | '\r' :: '\n' :: _ => 2
  | _ => 0

/-- A string on several lines, after its opening delimiter. -/
def lines? (read? : List Char → Reading) (text : List Char) : Reading :=
  (read? (text.drop (breakLength text))).after [] (breakLength text)

/-! ## Writing -/

/-- The escape of a character in the basic forms; `inLines` on several lines. -/
def escape (inLines : Bool) (c : Char) : List Char :=
  let hex (n : Nat) := (Nat.digitChar n).toUpper
  match c with
  | '\x08' => ['\\', 'b']
  | '\t' => ['\\', 't']
  | '\x0c' => ['\\', 'f']
  | '\r' => ['\\', 'r']
  | '\\' => ['\\', '\\']
  | '\n' => if inLines then ['\n'] else ['\\', 'n']
  | _ => if isControl c then ['\\', 'u', '0', '0', hex (c.toNat / 16), hex (c.toNat % 16)] else [c]

/-- The inside of a basic string on one line. -/
def basic : List Char → List Char
  | [] => []
  | '"' :: rest => '\\' :: '"' :: basic rest
  | c :: rest => escape false c ++ basic rest

/-- The inside of a basic string on several lines, after `quotes` quotes in a row: each third quote
is escaped. -/
def basicLines : (quotes : Nat) → List Char → List Char
  | _, [] => []
  | quotes, '"' :: rest =>
    if quotes = 2 then '\\' :: '"' :: basicLines 0 rest else '"' :: basicLines (quotes + 1) rest
  | _, c :: rest => escape true c ++ basicLines 0 rest

/-- The quoted form of a text. -/
def write (text : List Char) : List Char :=
  let hasControl := text.any fun c => c != '\n' && isControl c
  let hasBackslash := text.contains '\\'
  let hasBreak := text.contains '\n'
  let lineBreak := if hasBreak then ['\n'] else []
  let double := ['"', '"', '"']
  let single := ['\'', '\'', '\'']
  if !hasControl && !hasBackslash && !hasBreak && !text.contains '"' then
    '"' :: basic text ++ ['"']
  else if !hasControl && !hasBreak && !text.contains '\'' then
    '\'' :: text ++ ['\'']
  else if !hasControl && !hasBackslash && !Text.isInfix double text then
    double ++ lineBreak ++ basicLines 0 text ++ double
  else if !hasControl && !Text.isInfix single text then
    single ++ lineBreak ++ text ++ single
  else if hasBreak then double ++ lineBreak ++ basicLines 0 text ++ double
  else '"' :: basic text ++ ['"']

end RecordQuery.Toml.Quoted
