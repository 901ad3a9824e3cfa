import RecordQuery.Regex.Escape

/-!
# Classes in brackets

A class in brackets lists characters, ranges and classes, may hold other classes in brackets, and
combines them by `&&`, `--` and `~~` from left to right. It is read with a stack of the brackets
that are open.
-/

namespace RecordQuery.Regex

/-- A part of a pattern and the depth to which it is nested. -/
structure Nested (α : Type) where
  value : α
  depth : Nat

namespace Bracket

/-- An open bracket. -/
structure Frame where
  negated : Bool
  /-- What the items so far are to be combined with. -/
  left : Option (SetOperation × Nested CharClass) := none
  /-- The items so far, last first. -/
  items : List (Nested CharClass) := []

namespace Frame

def push (f : Frame) (c : Nested CharClass) : Frame := { f with items := c :: f.items }

/-- All items together. Two or more are nested one level deeper. -/
def together (f : Frame) : Nested CharClass :=
  match f.items with
  | [] => ⟨.none, 0⟩
  | [c] => c
  | cs =>
    ⟨cs.foldl (fun all c => c.value.union all) .none, cs.foldl (fun d c => max d c.depth) 0 + 1⟩

/-- The items combined with what stands before them. -/
def combined (flags : Flags) (f : Frame) : Nested CharClass :=
  match f.left with
  | none => f.together
  | some (op, left) =>
    let right := f.together
    ⟨.combine op (flags.fold left.value) (flags.fold right.value), max left.depth right.depth + 1⟩

/-- The frame after an operation. -/
def operate (flags : Flags) (f : Frame) (op : SetOperation) : Frame :=
  { f with left := some (op, f.combined flags), items := [] }

/-- The class of a bracket that ends. A complement holds more than ASCII. -/
def close? (flags : Flags) (f : Frame) : Option (Nested CharClass) :=
  if f.negated && !flags.unicode then none
  else
    let c := f.combined flags
    some ⟨(flags.fold c.value).complementIf f.negated, c.depth + 1⟩

end Frame

/-- Hyphens at the start of a bracket stand for themselves. -/
def pushHyphens (flags : Flags) (f : Frame) : List Char → Frame × List Char
  | '-' :: rest => pushHyphens flags (f.push ⟨.single '-', 0⟩) (flags.skip rest)
  | text => (f, text)
termination_by text => text.length
decreasing_by
  have := flags.length_skip rest
  simp only [List.length_cons]
  omega

/-- A bracket that opens, after its `[`. A `]` that comes first stands for itself. -/
def open? (flags : Flags) (text : List Char) : Option (Frame × List Char) :=
  let (negated, text) := match flags.skip text with
    | '^' :: rest => (true, flags.skip rest)
    | text => (false, text)
  let (f, text) := pushHyphens flags { negated } text
  match text with
  | [] => none
  | ']' :: rest =>
    if f.items.isEmpty then some (f.push ⟨.single ']', 0⟩, flags.skip rest) else some (f, text)
  | _ => some (f, text)

/-- A class by name between colons, after its `[`, and whether it is negated. -/
def named? : List Char → Option (Bool × CharClass × List Char)
  | ':' :: rest => do
    let (negated, rest) := match rest with
      | '^' :: rest => (true, rest)
      | rest => (false, rest)
    let name := rest.takeWhile (· != ':')
    match rest.drop name.length with
    | ':' :: ']' :: rest =>
      let c ← Property.ascii? (String.ofList name)
      return (negated, c, rest)
    | _ => none
  | _ => none

def primitive? (flags : Flags) : List Char → Option (Primitive × List Char)
  | '\\' :: rest => Escape.read? flags rest
  | c :: rest => some (.literal c false, rest)
  | [] => none

/-- The character of a literal; of ASCII only, if classes are. -/
def literal? (flags : Flags) : Primitive → Option Char
  | .literal c _ => if flags.unicode || c.toNat < 128 then some c else none
  | _ => none

/-- A character, a class or a range. A hyphen before `]` or another hyphen makes no range. -/
def item? (flags : Flags) (text : List Char) : Option (CharClass × List Char) := do
  let (first, rest) ← primitive? flags text
  let alone : Option (CharClass × List Char) := match first with
    | .characters c => some (c, rest)
    | p => (literal? flags p).map (.single ·, rest)
  match flags.skip rest with
  | [] => none
  | '-' :: after =>
    let after := flags.skip after
    match after with
    | ']' :: _ | '-' :: _ => alone
    | _ =>
      let (last, rest) ← primitive? flags after
      let a ← literal? flags first
      let b ← literal? flags last
      if a.toNat ≤ b.toNat then some (.ranges [(a.toNat, b.toNat)], rest) else none
  | _ => alone

/-- What is read after one step: the class, or the brackets that are still open. -/
inductive Progress where
  | done (c : Nested CharClass) (rest : List Char)
  | more (current : Frame) (outer : List Frame) (rest : List Char)

def step? (flags : Flags) (current : Frame) (outer : List Frame) (text : List Char) :
    Option Progress := do
  match flags.skip text with
  | [] => none
  | '[' :: rest =>
    match named? rest with
    | some (negated, c, rest) =>
      if negated && !flags.unicode then none
      return .more (current.push ⟨(flags.fold c).complementIf negated, 0⟩) outer rest
    | none =>
      let (inner, rest) ← open? flags rest
      return .more inner (current :: outer) rest
  | ']' :: rest =>
    let c ← current.close? flags
    match outer with
    | [] => return .done c rest
    | parent :: outer => return .more (parent.push c) outer rest
  | '&' :: '&' :: rest => return .more (current.operate flags .intersection) outer rest
  | '-' :: '-' :: rest => return .more (current.operate flags .difference) outer rest
  | '~' :: '~' :: rest => return .more (current.operate flags .symmetricDifference) outer rest
  | text =>
    let (c, rest) ← item? flags text
    return .more (current.push ⟨c, 0⟩) outer rest

/-- Reads on until the outermost bracket ends. -/
def readFrom? (flags : Flags) (current : Frame) (outer : List Frame) (text : List Char) :
    Option (Nested CharClass × List Char) :=
  match step? flags current outer text with
  | none => none
  | some (.done c rest) => some (c, rest)
  | some (.more current outer rest) =>
    if rest.length < text.length then readFrom? flags current outer rest else none
termination_by text.length

/-- The class in brackets, after the first `[`. -/
def read? (flags : Flags) (text : List Char) : Option (Nested CharClass × List Char) := do
  let (f, rest) ← open? flags text
  readFrom? flags f [] rest

end Bracket

end RecordQuery.Regex
