import RecordQuery.Json.Value
import RecordQuery.Number.Layout

/-!
# Writing JSON text

A value is written on one line without spaces, or with each item and field on a line of its own, two
spaces further in than what holds it.
-/

namespace RecordQuery.Json

/-- One character of a string. -/
def escape (c : Char) : List Char :=
  match c with
  | '"' => ['\\', '"']
  | '\\' => ['\\', '\\']
  | '\x08' => ['\\', 'b']
  | '\x0c' => ['\\', 'f']
  | '\n' => ['\\', 'n']
  | '\r' => ['\\', 'r']
  | '\t' => ['\\', 't']
  | _ =>
    if c.toNat < 32 then
      ['\\', 'u', '0', '0', Nat.digitChar (c.toNat / 16), Nat.digitChar (c.toNat % 16)]
    else [c]

def writeString (s : String) : String :=
  String.ofList ('"' :: s.toList.flatMap escape ++ ['"'])

/-- Whole numbers in digits; other numbers with a point or an exponent. -/
def Numeric.write : Numeric → String
  | integer i => toString i
  | float x => x.json

def writeBool (b : Bool) : String := if b then "true" else "false"

mutual

/-- The value on one line. -/
def compact : Json → String
  | null => "null"
  | bool b => writeBool b
  | number n => n.write
  | string s => writeString s
  | array items => "[" ++ ",".intercalate (compactItems items) ++ "]"
  | object fields => "\x7b" ++ ",".intercalate (compactFields fields) ++ "\x7d"

def compactItems : List Json → List String
  | [] => []
  | v :: rest => v.compact :: compactItems rest

def compactFields : List (String × Json) → List String
  | [] => []
  | (name, v) :: rest => (writeString name ++ ":" ++ v.compact) :: compactFields rest

end

/-- Lines between brackets, `depth` levels in; brackets alone if there are none. -/
def block (depth : Nat) (opening closing : String) (lines : List String) : String :=
  let indent (n : Nat) := String.ofList (List.replicate (2 * n) ' ')
  if lines.isEmpty then opening ++ closing
  else
    opening ++ "\n" ++ ",\n".intercalate (lines.map (indent (depth + 1) ++ ·)) ++ "\n" ++
      indent depth ++ closing

mutual

/-- The value over several lines, `depth` levels in. -/
def prettyAt (depth : Nat) : Json → String
  | null => "null"
  | bool b => writeBool b
  | number n => n.write
  | string s => writeString s
  | array items => block depth "[" "]" (prettyItems (depth + 1) items)
  | object fields => block depth "\x7b" "\x7d" (prettyFields (depth + 1) fields)

def prettyItems (depth : Nat) : List Json → List String
  | [] => []
  | v :: rest => v.prettyAt depth :: prettyItems depth rest

def prettyFields (depth : Nat) : List (String × Json) → List String
  | [] => []
  | (name, v) :: rest =>
    (writeString name ++ ": " ++ v.prettyAt depth) :: prettyFields depth rest

end

def pretty (v : Json) : String := v.prettyAt 0

end RecordQuery.Json
