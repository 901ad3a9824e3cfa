import RecordQuery.Query.Match
import RecordQuery.Query.Problem

/-!
# Segments

A query falls into segments: blanks, matches, and runs of other characters that are no token. The
tokens and the problems of a query are read off its segments.
-/

namespace RecordQuery

inductive Segment.Content where
  | blank
  | found (m : Match)
  /-- A run without blanks where nothing matches. -/
  | skipped (text : List Char)

structure Segment where
  /-- The place of its first character. -/
  position : Nat
  content : Segment.Content

namespace Segment

/-- The number of characters of the segment. -/
def Content.length : Content → Nat
  | blank => 1
  | found m => m.length
  | skipped text => text.length

/-- What stands at the start of `text`, before which `before` stands. -/
def Content.at (rules : Rules) (before : Option Char) (text : List Char) : Content :=
  if text.head?.any Text.isBlank then .blank
  else match Match.at? rules before text with
    | some m => .found m
    | none => .skipped (text.takeWhile fun c => !Text.isBlank c)

/-- The segments of `text` from `position` on, without its first `rest` characters, which belong to
the segment before; `before` is the character in front. -/
def following (rules : Rules) : (before : Option Char) → (position rest : Nat) → List Char →
    List Segment
  | _, _, _, [] => []
  | _, position, rest + 1, c :: text => following rules (some c) (position + 1) rest text
  | before, position, 0, c :: text =>
    let content := Content.at rules before (c :: text)
    ⟨position, content⟩ :: following rules (some c) (position + 1) (content.length - 1) text

/-- The segments of a query. -/
def ofText (rules : Rules) (text : List Char) : List Segment := following rules none 0 0 text

/-! ## Tokens and problems -/

/-- The tokens that the segment yields: those of a match whose key is accepted. -/
def tokens (rules : Rules) (s : Segment) : List Token :=
  match s.content with
  | .found { key, reading := .tokens kinds, .. } =>
    if key.all rules.accepts then kinds.map (⟨·, s.position⟩) else []
  | _ => []

/-- Whether the segment is a term that is left out, and with it a negation that waits for it. -/
def isDropped (rules : Rules) (s : Segment) : Bool :=
  match s.content with
  | .found { reading := .malformed, .. } => true
  | .found { key, reading := .tokens _, .. } => !key.all rules.accepts
  | _ => false

/-- The problem that the segment is. A key that is not allowed hides a malformed literal. -/
def problem? (rules : Rules) (s : Segment) : Option Problem :=
  match s.content with
  | .blank => none
  | .skipped text => some ⟨.unexpected (String.ofList text), s.position⟩
  | .found m =>
    match m.key.filter (!rules.accepts ·), m.reading with
    | some key, _ => some ⟨.invalidKey key m.value, s.position⟩
    | none, .malformed =>
      if rules.strictLiterals then some ⟨.invalidLiteral m.key m.value, s.position⟩ else none
    | none, .tokens _ => none

/-- Adds the tokens of a segment to those before it, the last of which comes first. -/
def extend (rules : Rules) (before : List Token) (s : Segment) : List Token :=
  if s.isDropped rules then
    match before with
    | ⟨.negation, _⟩ :: rest => rest
    | _ => before
  else (s.tokens rules).reverse ++ before

/-- The tokens of all segments, in order. -/
def allTokens (rules : Rules) (segments : List Segment) : List Token :=
  (segments.foldl (extend rules) []).reverse

/-- The problems of all segments, in order. -/
def allProblems (rules : Rules) (segments : List Segment) : List Problem :=
  segments.filterMap (problem? rules)

end Segment

end RecordQuery
