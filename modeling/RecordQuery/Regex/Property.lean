import RecordQuery.Regex.CharClass
import RecordQuery.Regex.Property.Age
import RecordQuery.Regex.Property.Binary
import RecordQuery.Regex.Property.Break
import RecordQuery.Regex.Property.Category
import RecordQuery.Regex.Property.Script
import RecordQuery.Regex.Property.ScriptExtension
import RecordQuery.Regex.Property.Word
import RecordQuery.Text.Parts

/-!
# Properties of characters

The classes that a pattern names by properties of Unicode 16. Names are compared without regard to
case, blanks, hyphens and underscores, and without a leading "is".
-/

namespace RecordQuery.Regex.Property

/-- The value of a run of hexadecimal digits. -/
def hexValue (digits : List Char) : Nat :=
  digits.foldl (fun n c => 16 * n + (if c.isDigit then c.toNat - 48 else c.toNat - 55)) 0

/-- The ranges that a table writes as hexadecimal numbers and pairs of them, with blanks and line
breaks between them. -/
def rangesOf (table : String) : List (Nat × Nat) :=
  ((Text.split '\n' table.toList).flatMap (Text.split ' ')).filter (!·.isEmpty) |>.map fun entry =>
    match Text.split '-' entry with
    | [a, b] => (hexValue a, hexValue b)
    | _ => (hexValue entry, hexValue entry)

/-- The class that a table holds under a name. -/
def find? (table : List (List String × String)) (name : String) : Option CharClass :=
  (table.find? (·.1.contains name)).map fun entry => .ranges (rangesOf entry.2)

/-- A name in its normal form. -/
def normalName (name : String) : String :=
  let (stripped, rest) := match name.toList with
    | 'i' :: 's' :: rest | 'I' :: 's' :: rest | 'i' :: 'S' :: rest | 'I' :: 'S' :: rest =>
      (true, rest)
    | rest => (false, rest)
  let kept := rest.filter fun c => c != ' ' && c != '_' && c != '-' && c.toNat < 128
  let lowered := kept.map Char.toLower
  if stripped && lowered = ['c'] then "isc" else String.ofList lowered

/-- The union of the categories with these names. -/
def categoryUnion (names : List String) : CharClass :=
  .ranges (names.flatMap fun name =>
    match categories.find? (·.1.contains name) with
    | some entry => rangesOf entry.2
    | none => [])

/-- The categories that are unions of others. -/
def categoryGroups : List (List String × List String) := [
  (["l", "letter"], ["lu", "ll", "lt", "lm", "lo"]),
  (["lc", "casedletter"], ["lu", "ll", "lt"]),
  (["m", "mark", "combiningmark"], ["mn", "mc", "me"]),
  (["n", "number"], ["nd", "nl", "no"]),
  (["p", "punctuation", "punct"], ["pc", "pd", "ps", "pe", "pi", "pf", "po"]),
  (["s", "symbol"], ["sm", "sc", "sk", "so"]),
  (["z", "separator"], ["zs", "zl", "zp"]),
  (["c", "other"], ["cc", "cf", "cn", "co"])]

/-- A general category, or a group of them. -/
def category? (name : String) : Option CharClass :=
  if name = "any" then some .all
  else if name = "ascii" then some (.ranges [(0, 127)])
  else if name = "assigned" then (find? categories "cn").map .complement
  else match categoryGroups.find? (·.1.contains name) with
    | some group => some (categoryUnion group.2)
    | none => find? categories name

/-- All code points that a version of Unicode has. -/
def age? (version : String) : Option CharClass :=
  if ages.any (·.1.contains version) then
    let earlier := ages.takeWhile fun entry => !entry.1.contains version
    let own := (ages.dropWhile fun entry => !entry.1.contains version).take 1
    some (.ranges ((earlier ++ own).flatMap fun entry => rangesOf entry.2))
  else none

/-- The class with a property, a category or a script of this name, looked for in this order, but
that three short names of categories come first. -/
def named? (name : String) : Option CharClass :=
  let name := normalName name
  let isShortCategory := name = "cf" || name = "sc" || name = "lc"
  (if isShortCategory then none else find? binary name) <|> category? name <|> find? scripts name

/-- The class of the characters for which a property has a value. -/
def valued? (property value : String) : Option CharClass :=
  let property := normalName property
  let value := normalName value
  if property = "gc" || property = "generalcategory" then category? value
  else if property = "sc" || property = "script" then find? scripts value
  else if property = "scx" || property = "scriptextensions" then find? scriptExtensions value
  else if property = "age" then age? value
  else if property = "gcb" || property = "graphemeclusterbreak" then find? graphemeBreaks value
  else if property = "sb" || property = "sentencebreak" then find? sentenceBreaks value
  else if property = "wb" || property = "wordbreak" then find? wordBreaks value
  else none

/-! ## The classes with letters of their own -/

def digit : CharClass := (find? categories "nd").getD .none

def space : CharClass :=
  .ranges [(9, 13), (0x20, 0x20), (0x85, 0x85), (0xA0, 0xA0), (0x1680, 0x1680), (0x2000, 0x200A),
    (0x2028, 0x2029), (0x202F, 0x202F), (0x205F, 0x205F), (0x3000, 0x3000)]

def word : CharClass := .ranges (rangesOf wordRanges)

def asciiDigit : CharClass := .ranges [(48, 57)]

def asciiSpace : CharClass := .ranges [(9, 13), (0x20, 0x20)]

def asciiWord : CharClass := .ranges [(48, 57), (65, 90), (95, 95), (97, 122)]

/-- The classes of ASCII with names of their own. -/
def ascii? (name : String) : Option CharClass :=
  match name with
  | "alnum" => some (.ranges [(48, 57), (65, 90), (97, 122)])
  | "alpha" => some (.ranges [(65, 90), (97, 122)])
  | "ascii" => some (.ranges [(0, 127)])
  | "blank" => some (.ranges [(9, 9), (32, 32)])
  | "cntrl" => some (.ranges [(0, 31), (127, 127)])
  | "digit" => some asciiDigit
  | "graph" => some (.ranges [(33, 126)])
  | "lower" => some (.ranges [(97, 122)])
  | "print" => some (.ranges [(32, 126)])
  | "punct" => some (.ranges [(33, 47), (58, 64), (91, 96), (123, 126)])
  | "space" => some asciiSpace
  | "upper" => some (.ranges [(65, 90)])
  | "word" => some asciiWord
  | "xdigit" => some (.ranges [(48, 57), (65, 70), (97, 102)])
  | _ => none

end RecordQuery.Regex.Property
