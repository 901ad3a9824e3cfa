/-!
# Parts of texts

The characters with the Unicode property White_Space and the words between them, and the parts of a text
between separators. A query is brought to its normal spelling by joining its words with single spaces;
every position that a report names counts characters of that spelling.
-/

namespace RecordQuery.Text

/-! ## Words -/

/-- The 25 characters with the property White_Space. -/
def isBlank (c : Char) : Bool :=
  let n := c.toNat
  (9 ≤ n && n ≤ 13) || n == 0x20 || n == 0x85 || n == 0xA0 || n == 0x1680 ||
    (0x2000 ≤ n && n ≤ 0x200A) || n == 0x2028 || n == 0x2029 || n == 0x202F || n == 0x205F ||
    n == 0x3000

/-- Puts `c` in front of the first of the words. -/
def glue (c : Char) : List (List Char) → List (List Char)
  | [] => [[c]]
  | word :: words => (c :: word) :: words

/-- The maximal runs of characters that are not blank. -/
def words : List Char → List (List Char)
  | [] => []
  | [c] => if isBlank c then [] else [[c]]
  | c :: d :: rest =>
    if isBlank c then words (d :: rest)
    else if isBlank d then [c] :: words (d :: rest)
    else glue c (words (d :: rest))

/-- The words of the text with one space between neighbours and none at the ends. -/
def normalize (text : String) : String :=
  String.ofList ([' '].intercalate (words text.toList))

/-- The text without the blanks at its two ends. -/
def trim (text : List Char) : List Char :=
  ((text.dropWhile isBlank).reverse.dropWhile isBlank).reverse

/-! ## Splitting and searching -/

/-- The parts of a text between the characters `separator`, one more than there are of them. -/
def split (separator : Char) : List Char → List (List Char)
  | [] => [[]]
  | c :: rest =>
    if c = separator then [] :: split separator rest
    else match split separator rest with
      | part :: parts => (c :: part) :: parts
      | [] => [[c]]

/-- Whether `part` stands anywhere in the text. -/
def isInfix (part : List Char) : List Char → Bool
  | [] => part.isEmpty
  | c :: rest => part.isPrefixOf (c :: rest) || isInfix part rest

/-- The lines of a text without their line feeds, and without a carriage return before one. A last
line without a line feed counts unless it is empty. -/
def lines (text : List Char) : List (List Char) :=
  let parts := split '\n' text
  let ended := parts.dropLast.map fun line =>
    if line.getLast? = some '\r' then line.dropLast else line
  ended ++ parts.getLast?.toList.filter (!·.isEmpty)

end RecordQuery.Text
