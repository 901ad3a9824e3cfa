import RecordQuery.Proofs.Query.Literal
import RecordQuery.Proofs.Query.Locality

/-!
# Queries that compare

A key, a comparison and a literal are read as that comparison wherever they stand: a term may be read
from the same text, but none longer, and no literal is taken for a range.
-/

namespace RecordQuery

open Segment

namespace Match

variable {rules : Rules} {before : Option Char} {key literal : List Char} {c : Comparison}

/-- The comparison scanner takes the comparison that is spelled, unless an equals sign goes on
after it. -/
theorem comparison?_spelling_append {rest : List Char} (c : Comparison) (hrest : rest.head? ≠ some '=') :
    comparison? (c.spelling.toList ++ rest) = some (c, rest) := by
  cases c with
  | colon | equal | atLeast | atMost => rfl
  | greater | less =>
      cases rest with
      | nil => rfl
      | cons d rest =>
          have hd : d ≠ '=' := by simpa using hrest
          simp [Comparison.spelling, comparison?, hd]

/-- The key scanner takes the key of a comparison. -/
theorem key?_compared (hkey : isKey key = true) (c : Comparison) (literal : List Char) :
    key? (key ++ (c.spelling.toList ++ literal)) = some (key, c.spelling.toList ++ literal) := by
  refine key?_eq_some_iff.mpr ⟨rfl, hkey, ?_⟩
  cases c <;> simp [Comparison.spelling, isKeyChar, Text.isAlphanumeric]

theorem takeWhile_of_classify (hliteral : Literal.classify literal ≠ .neither) :
    literal.takeWhile Literal.isLiteralChar = literal := by
  have hrun := (Literal.plain_of_classify hliteral).1.chars
  have hstop : ([] : List Char).head?.all (!Literal.isLiteralChar ·) = true := rfl
  simpa using (takeWhile_append_of_stop hrun hstop).1

theorem head?_of_classify (hliteral : Literal.classify literal ≠ .neither) :
    literal.head? ≠ some '=' := by
  intro hhead
  have hchar := (Literal.plain_of_classify hliteral).1.chars '=' (List.mem_of_head? hhead)
  revert hchar
  decide

theorem range?_compared (hkey : isKey key = true)
    (hliteral : Literal.classify literal ≠ .neither) :
    range? (key ++ c.spelling.toList ++ literal) = none := by
  have hsign := comparison?_spelling_append c (head?_of_classify hliteral)
  rw [List.append_assoc]
  simp [range?, key?_compared hkey, hsign, takeWhile_of_classify hliteral,
    Literal.splitRange?_of_classify hliteral]

/-- Only a literal is compared with. -/
theorem ne_neither_of_comparisonReading? {key : String} {r : Reading} {x : Literal.Reading}
    (h : comparisonReading? key c x = some r) : x ≠ .neither := by
  rintro rfl
  cases h

theorem compared?_compared {r : Reading} (hkey : isKey key = true)
    (hr : comparisonReading? (String.ofList key) c (Literal.classify literal) = some r) :
    compared? (key ++ c.spelling.toList ++ literal) =
      some (ofLiteral key c.spelling.toList literal r) := by
  have hliteral := ne_neither_of_comparisonReading? hr
  have hne : literal.isEmpty = false :=
    List.isEmpty_eq_false_iff.mpr (Literal.plain_of_classify hliteral).2
  have hsign := comparison?_spelling_append c (head?_of_classify hliteral)
  rw [List.append_assoc]
  simp only [compared?, key?_compared hkey, hsign, takeWhile_of_classify hliteral, hne, hr, ofLiteral,
    Option.bind_eq_bind, Option.bind_some, Bool.false_eq_true, if_false, String.length_toList]
  rfl

/-- A match is no longer than the text that it is read from. -/
theorem SpelledAt.length_le {text : List Char} {m : Match} (h : SpelledAt rules text m) :
    m.length ≤ text.length := by
  obtain ⟨piece, rest, rfl, hspells⟩ := h
  rw [← hspells.length_eq, List.length_append]
  exact Nat.le_add_right _ _

/-- What no character of keys, signs and literals is, no character of a comparison is. -/
theorem all_not_of_compared {p : Char → Bool} (hkey : isKey key = true)
    (hliteral : Literal.classify literal ≠ .neither) (hkeyChar : ∀ d, isKeyChar d = true → p d = false)
    (hsign : c.spelling.toList.all (!p ·) = true)
    (hliteralChar : ∀ d, Literal.isLiteralChar d = true → p d = false) :
    ∀ d ∈ key ++ c.spelling.toList ++ literal, p d = false := by
  intro d hd
  rcases List.mem_append.mp hd with hd | hd
  · rcases List.mem_append.mp hd with hd | hd
    · exact hkeyChar d (isKeyChar_of_mem hkey hd)
    · simpa using List.all_eq_true.mp hsign d hd
  · exact hliteralChar d ((Literal.plain_of_classify hliteral).1.chars d hd)

/-- There is no blank in a comparison. -/
theorem isBlank_compared (hkey : isKey key = true) (hliteral : Literal.classify literal ≠ .neither) :
    ∀ d ∈ key ++ c.spelling.toList ++ literal, Text.isBlank d = false :=
  all_not_of_compared hkey hliteral (fun _ => Text.isBlank_of_blankCodes (by decide +kernel))
    (by cases c <;> decide) (fun _ => Text.isBlank_of_blankCodes (by decide +kernel))

/-- **Comparisons are read.** -/
theorem at?_compared {r : Reading} (hkey : isKey key = true)
    (hr : comparisonReading? (String.ofList key) c (Literal.classify literal) = some r) :
    at? rules before (key ++ c.spelling.toList ++ literal) =
      some (ofLiteral key c.spelling.toList literal r) := by
  have hliteral := ne_neither_of_comparisonReading? hr
  obtain ⟨hopen, hclose, hnegation⟩ :=
    no_sign_of_isKey hkey before (c.spelling.toList ++ literal)
  rw [← List.append_assoc] at hopen hclose hnegation
  rw [at?, hopen, hclose, hnegation, range?_compared hkey hliteral, compared?_compared hkey hr]
  cases hterm : term? rules (key ++ c.spelling.toList ++ literal) with
  | none => rfl
  | some m =>
      have hle := (spelledAt_of_term? hterm).length_le
      have hnot : ¬ (ofLiteral key c.spelling.toList literal r).length < m.length := by
        simpa [ofLiteral, Nat.add_assoc] using hle
      simp [longest, hnot]

end Match

/-- What a comparison of a key with a literal is read as. -/
def Literal.kinds (key : String) (c : Comparison) : Literal → List Token.Kind
  | .number x => [.term (.number key c x)]
  | .period p => Match.dateTokens key c p

theorem Match.comparisonReading?_valid (key : String) (c : Comparison) (l : Literal) :
    comparisonReading? key c (.valid l) = some (.tokens (l.kinds key c)) := by
  cases l <;> rfl

variable {key literal : List Char} {l : Literal}

/-- A comparison is read whatever stands before it, if a blank or the end of a group comes after it. -/
theorem reads_compared (before : Option Char) (c : Comparison) {rest : List Char}
    (hkey : Match.isKey key = true) (hl : Literal.classify literal = .valid l) (hrest : Match.StartsWithStop rest) :
    Reads {} before (key ++ c.spelling.toList ++ literal) rest (l.kinds (String.ofList key) c) := by
  have hr : Match.comparisonReading? (String.ofList key) c (Literal.classify literal) =
      some (.tokens (l.kinds (String.ofList key) c)) := by
    rw [hl]
    exact Match.comparisonReading?_valid _ c l
  have hliteral : Literal.classify literal ≠ .neither := by simp [hl]
  have hblank : (key ++ c.spelling.toList ++ literal).head?.any Text.isBlank = false := by
    cases key with
    | nil => simp [Match.isKey] at hkey
    | cons d key => simpa using Match.isBlank_of_isKeyStart (Bool.and_eq_true_iff.mp hkey).1
  have hplain : ∀ d ∈ key ++ c.spelling.toList ++ literal, (d == '"' || d == '/') = false := by
    have hchar : ∀ {p : Char → Bool}, p '"' = false → p '/' = false → ∀ d, p d = true →
        (d == '"' || d == '/') = false := by
      intro p hquote hslash d hd
      simp only [Bool.or_eq_false_iff, beq_eq_false_iff_ne]
      constructor <;> rintro rfl <;> simp_all
    exact Match.all_not_of_compared hkey hliteral (hchar (by decide +kernel) (by decide +kernel))
      (by cases c <;> decide) (hchar (by decide +kernel) (by decide +kernel))
  refine .of_at? ?_ ?_ hblank (Match.at?_compared hkey hr) ?_ rfl rfl hrest
  · simp [Match.ne_nil_of_isKey hkey]
  · simpa using hplain
  · simp [Match.ofLiteral, Nat.add_assoc]

/-! ## Trees -/

/-- No cleanup is due in a query that is read without a clash, and its tree is that of its tokens. -/
theorem Segment.Reads.tree {text : List Char} {kinds : List Token.Kind}
    (h : Reads {} none text [] kinds) (hchain : kinds.IsChain (Cleanup.clash · · = false)) :
    (Tree.ofTokens? (TokenStream.ofText {} (String.ofList text)).tokens).map Tree.unplaced =
      Tree.ofTokens? (Token.unplaced kinds) := by
  have hkinds := h.ofText.1
  have hclean : (allTokens {} (Segment.ofText {} text)).IsChain
      (Cleanup.clash ·.kind ·.kind = false) := by
    have hmapped : ((allTokens {} (Segment.ofText {} text)).map Token.kind).IsChain
        (Cleanup.clash · · = false) := by rwa [hkinds]
    exact (List.isChain_map Token.kind).mp hmapped
  have htokens : (TokenStream.ofText {} (String.ofList text)).tokens =
      allTokens {} (Segment.ofText {} text) := by
    simp only [TokenStream.ofText, String.toList_ofList]
    exact cleanup_of_isChain hclean
  rw [htokens, Tree.unplaced_ofTokens?, hkinds]

theorem Literal.isChain_kinds (key : String) (c : Comparison) (l : Literal) :
    (l.kinds key c).IsChain (Cleanup.clash · · = false) := by
  cases l with
  | number x => exact .singleton _
  | period p =>
      cases c with
      | less | atLeast | atMost | greater => exact .singleton _
      | colon | equal =>
          cases hp : p.timed <;>
            simp [kinds, Match.dateTokens, hp, Match.periodTokens, Cleanup.clash,
              Token.Kind.isOpenGroup, Token.Kind.isJoiner, Token.Kind.isCloseGroup]

end RecordQuery
