import RecordQuery.Regex.Bracket
import RecordQuery.Regex.Matching
import RecordQuery.Number.Numeral
import RecordQuery.Text.Alphanumeric

/-!
# Reading patterns

A pattern is read from left to right with a stack of the groups that are open. It is refused if it
breaks the grammar, names an unknown property, is nested more than 250 levels deep or would take
more than ten mebibytes.
-/

namespace RecordQuery.Regex

/-- An item of a sequence. Flags are an item that cannot be repeated. -/
structure Item extends Nested Regex where
  isFlags : Bool := false

/-- An open group, or the pattern itself. -/
structure Group where
  /-- The branches that are complete, last first. -/
  branches : List (Nested Regex) := []
  /-- The items of the branch that is read, last first. -/
  items : List Item := []
  /-- Whether what the group matches can be referred to. -/
  isCapture : Bool := false
  /-- The flags outside the group. -/
  flagsOutside : Flags := {}

namespace Group

def push (g : Group) (r : Regex) (depth : Nat) : Group :=
  { g with items := ⟨⟨r, depth⟩, false⟩ :: g.items }

/-- Flags that hold from here on. -/
def pushFlags (g : Group) : Group := { g with items := ⟨⟨.empty, 0⟩, true⟩ :: g.items }

/-- The items of a branch in sequence. -/
def branch (g : Group) : Nested Regex :=
  match g.items with
  | [] => ⟨.empty, 0⟩
  | [x] => x.toNested
  | x :: rest =>
    ⟨rest.foldl (fun r y => .seq y.value r) x.value, g.items.foldl (fun d y => max d y.depth) 0 + 1⟩

/-- The group after `|`. -/
def nextBranch (g : Group) : Group := { g with branches := g.branch :: g.branches, items := [] }

/-- All branches as alternatives. -/
def alternatives (g : Group) : Nested Regex :=
  match g.branches with
  | [] => g.branch
  | branches =>
    let last := g.branch
    ⟨branches.foldl (fun r b => .either b.value r) last.value,
      branches.foldl (fun d b => max d b.depth) last.depth + 1⟩

/-- The group with its last item repeated. -/
def repeatLast? (g : Group) (least : Nat) (most : Option Nat) : Option Group :=
  match g.items with
  | x :: rest =>
    if x.isFlags then none
    else some { g with items := ⟨⟨.repeated least most x.value, x.depth + 1⟩, false⟩ :: rest }
  | [] => none

end Group

/-- What has been read of a pattern. -/
structure Reading where
  flags : Flags
  current : Group := {}
  outer : List Group := []
  names : List String := []

namespace Reading

def push (s : Reading) (r : Regex) (depth : Nat) : Reading :=
  { s with current := s.current.push r depth }

/-! ## Groups -/

/-- A character of the name of a group. -/
def isNameChar (first : Bool) (c : Char) : Bool :=
  c == '_' ||
    if first then
      if c.toNat < 128 then c.isAlpha
      else ((Property.find? Property.binary "alphabetic").getD .none).contains c
    else Text.isAlphanumeric c || c == '.' || c == '[' || c == ']'

def isName : List Char → Bool
  | c :: rest => isNameChar true c && rest.all (isNameChar false)
  | [] => false

def openGroup (s : Reading) (isCapture : Bool) (flags : Flags) : Reading :=
  { s with
    flags
    current := { isCapture, flagsOutside := s.flags }
    outer := s.current :: s.outer }

/-- A group with a name, which no other group may have, after `(?<`. -/
def openNamed? (s : Reading) (text : List Char) : Option (Reading × List Char) :=
  let name := text.takeWhile (· != '>')
  match text.drop name.length with
  | '>' :: rest =>
    let key := String.ofList name
    if isName name && !s.names.contains key then
      some ({ s.openGroup true s.flags with names := key :: s.names }, rest)
    else none
  | _ => none

/-- A group that opens, or flags, after `(`. -/
def open? (s : Reading) (text : List Char) : Option (Reading × List Char) :=
  match s.flags.skip text with
  | '?' :: 'P' :: '<' :: rest => s.openNamed? rest
  | '?' :: '=' :: _ | '?' :: '!' :: _ | '?' :: '<' :: '=' :: _ | '?' :: '<' :: '!' :: _ => none
  | '?' :: '<' :: rest => s.openNamed? rest
  | '?' :: rest =>
    let letters := rest.takeWhile fun c => c != ':' && c != ')'
    match rest.drop letters.length with
    | ':' :: rest => do
      let flags ← s.flags.withLetters? true [] letters
      return (s.openGroup false flags, rest)
    | ')' :: rest => do
      if letters.isEmpty then none
      let flags ← s.flags.withLetters? true [] letters
      return ({ s with flags, current := s.current.pushFlags }, rest)
    | _ => none
  | text => some (s.openGroup true s.flags, text)

/-- The end of the innermost group. -/
def close? (s : Reading) : Option Reading :=
  match s.outer with
  | [] => none
  | parent :: outer =>
    let r := s.current.alternatives
    let value := if s.current.isCapture then .capture r.value else r.value
    some { s with
      flags := s.current.flagsOutside
      current := parent.push value (r.depth + 1)
      outer }

/-! ## Repetitions -/

/-- Decimal digits, and blanks and comments between them where they mean nothing. -/
def digitRun (spaced inComment : Bool) : List Char → List Char × List Char
  | [] => ([], [])
  | c :: rest =>
    if inComment then digitRun spaced (c != '\n') rest
    else if spaced && Text.isBlank c then digitRun spaced false rest
    else if spaced && c = '#' then digitRun spaced true rest
    else if c.isDigit then
      let (run, rest) := digitRun spaced false rest
      (c :: run, rest)
    else ([], c :: rest)

/-- A count, with blanks around it: no digits, or a number of 32 bits. -/
def count? (flags : Flags) (text : List Char) : Option (Option Nat × List Char) :=
  let (digits, rest) := digitRun flags.spaced false (text.dropWhile Text.isBlank)
  let rest := rest.dropWhile Text.isBlank
  let n := Numeral.natOfDigits digits
  if digits.isEmpty then some (none, rest)
  else if n < 0x100000000 then some (some n, rest)
  else none

/-- The limits of a counted repetition, after its brace. -/
def limits? (flags : Flags) (text : List Char) : Option ((Nat × Option Nat) × List Char) := do
  let (least, rest) ← count? flags (flags.skip text)
  let (limits, rest) ← match rest with
    | ',' :: rest =>
      match flags.skip rest with
      | '\x7d' :: rest => (least.map fun n => ((n, none), '\x7d' :: rest))
      | rest => do
        let n ← least
        let (most, rest) ← count? flags rest
        let m ← most
        if n ≤ m then some ((n, some m), rest) else none
    | rest => least.map fun n => ((n, some n), rest)
  match rest with
  | '\x7d' :: rest => return (limits, rest)
  | _ => none

/-- A question mark after a repetition changes only which match is taken. -/
def dropLazy : List Char → List Char
  | '?' :: rest => rest
  | text => text

def repeat? (s : Reading) (least : Nat) (most : Option Nat) (rest : List Char) :
    Option (Reading × List Char) :=
  (s.current.repeatLast? least most).map fun g => ({ s with current := g }, dropLazy rest)

/-! ## Characters, classes and conditions -/

/-- The class of the point. -/
def dot (flags : Flags) : CharClass :=
  if flags.dotAll then .all
  else if flags.anyLineEnd then .complement (.ranges [(10, 10), (13, 13)])
  else .complement (.single '\n')

/-- A primitive outside brackets. A byte beyond ASCII is no text. -/
def ofPrimitive? (flags : Flags) : Primitive → Option Regex
  | .literal c byte =>
    if byte && !flags.unicode && c.toNat ≥ 128 then none
    else some (.one (flags.fold (.single c)))
  | .characters c => some (.one c)
  | .look l => some (.look l)

def lineStart (flags : Flags) : Look :=
  if !flags.multiLine then .textStart else if flags.anyLineEnd then .anyLineStart else .lineStart

def lineEnd (flags : Flags) : Look :=
  if !flags.multiLine then .textEnd else if flags.anyLineEnd then .anyLineEnd else .lineEnd

/-- Reads one item, or one sign of grouping. -/
def step? (s : Reading) (text : List Char) : Option (Reading × List Char) :=
  match text with
  | [] => none
  | '(' :: rest => s.open? rest
  | ')' :: rest => s.close?.map (·, rest)
  | '|' :: rest => some ({ s with current := s.current.nextBranch }, rest)
  | '[' :: rest => do
    let (c, rest) ← Bracket.read? s.flags rest
    return (s.push (.one c.value) c.depth, rest)
  | '?' :: rest => s.repeat? 0 (some 1) rest
  | '*' :: rest => s.repeat? 0 none rest
  | '+' :: rest => s.repeat? 1 none rest
  | '\x7b' :: rest => do
    let ((least, most), rest) ← limits? s.flags rest
    s.repeat? least most (s.flags.skip rest)
  | '.' :: rest => if s.flags.unicode then some (s.push (.one (dot s.flags)) 0, rest) else none
  | '^' :: rest => some (s.push (.look (lineStart s.flags)) 0, rest)
  | '$' :: rest => some (s.push (.look (lineEnd s.flags)) 0, rest)
  | '\\' :: rest => do
    let (p, rest) ← Escape.read? s.flags rest
    return (s.push (← ofPrimitive? s.flags p) 0, rest)
  | c :: rest => (ofPrimitive? s.flags (.literal c false)).map fun r => (s.push r 0, rest)

/-- Reads on to the end of the pattern, where every group has to be closed. -/
def run? (s : Reading) (text : List Char) : Option (Nested Regex) :=
  if (s.flags.skip text).isEmpty then
    if s.outer.isEmpty then some s.current.alternatives else none
  else match s.step? (s.flags.skip text) with
    | none => none
    | some (s, rest) => if rest.length < text.length then run? s rest else none
termination_by text.length

end Reading

/-- The deepest nesting of a pattern. -/
def maxDepth : Nat := 250

/-- The pattern that a text writes. -/
def compile? (ignoreCase : Bool) (pattern : String) : Option Regex := do
  let r ← Reading.run? { flags := { ignoreCase } } pattern.toList
  if r.depth ≤ maxDepth && r.value.weight ≤ maxWeight then some r.value else none

/-- The texts in which a pattern matches; none if it is no pattern. -/
def engine (ignoreCase : Bool) (pattern : String) : Option (String → Bool) :=
  (compile? ignoreCase pattern).map isMatch

end RecordQuery.Regex
