import RecordQuery.Regex.Pattern
import RecordQuery.Text.Parts

/-!
# Flags of patterns

Flags change how the rest of a group is read. With one of them, blanks and comments in the pattern
mean nothing.
-/

namespace RecordQuery.Regex

structure Flags where
  ignoreCase : Bool := false
  /-- `^` and `$` stand for the ends of lines. -/
  multiLine : Bool := false
  /-- The point stands for line feeds too. -/
  dotAll : Bool := false
  /-- Classes hold characters beyond ASCII. -/
  unicode : Bool := true
  /-- Lines end in carriage returns too. -/
  anyLineEnd : Bool := false
  /-- Blanks and comments are passed over. -/
  spaced : Bool := false
  deriving DecidableEq, Repr

namespace Flags

/-- The flags with the one of this letter set to `value`. Which of two matches is taken, flag `U`,
makes no difference here. -/
def set? (flags : Flags) (letter : Char) (value : Bool) : Option Flags :=
  match letter with
  | 'i' => some { flags with ignoreCase := value }
  | 'm' => some { flags with multiLine := value }
  | 's' => some { flags with dotAll := value }
  | 'U' => some flags
  | 'u' => some { flags with unicode := value }
  | 'R' => some { flags with anyLineEnd := value }
  | 'x' => some { flags with spaced := value }
  | _ => none

/-- The flags after the letters, of which none may occur twice; those after a hyphen are turned off,
and the hyphen may not be the last. -/
def withLetters? (flags : Flags) (value : Bool) (seen : List Char) : List Char → Option Flags
  | [] => if seen.head? = some '-' then none else some flags
  | c :: rest =>
    if seen.contains c then none
    else if c = '-' then withLetters? flags false (c :: seen) rest
    else (flags.set? c value).bind (withLetters? · value (c :: seen) rest)

/-- The class with variants in case, if case is ignored. -/
def fold (flags : Flags) (c : CharClass) : CharClass :=
  if flags.ignoreCase then .folded flags.unicode c else c

end Flags

/-! ## Blanks and comments -/

/-- Without blanks and comments at the start; a comment runs from `#` to the end of the line. -/
def dropBlanks (inComment : Bool) : List Char → List Char
  | [] => []
  | c :: rest =>
    if inComment then dropBlanks (c != '\n') rest
    else if Text.isBlank c then dropBlanks false rest
    else if c = '#' then dropBlanks true rest
    else c :: rest

/-- Without what the flags pass over at the start. -/
def Flags.skip (flags : Flags) (text : List Char) : List Char :=
  if flags.spaced then dropBlanks false text else text

theorem length_dropBlanks (inComment : Bool) (text : List Char) :
    (dropBlanks inComment text).length ≤ text.length := by
  induction text generalizing inComment with
  | nil => simp [dropBlanks]
  | cons c rest ih =>
    simp only [dropBlanks]
    split
    · exact Nat.le_succ_of_le (ih _)
    · split
      · exact Nat.le_succ_of_le (ih _)
      · split
        · exact Nat.le_succ_of_le (ih _)
        · exact Nat.le_refl _

theorem Flags.length_skip (flags : Flags) (text : List Char) :
    (flags.skip text).length ≤ text.length := by
  unfold Flags.skip
  split
  · exact length_dropBlanks false text
  · exact Nat.le_refl _

end RecordQuery.Regex
