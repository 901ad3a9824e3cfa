import Mathlib.Data.List.TakeWhile
import RecordQuery.Proofs.Query.Compared

/-!
# Queries that ask for a range

A key, a colon and two literals with two points between them are read as the range from one to the
other, wherever they stand: a comparison or term read there is no longer, and of matches of one length
the range comes first. The range is the two comparisons with its ends, which form a group if they are
dates.
-/

namespace RecordQuery

open Segment

/-! ## Where a range is split -/

namespace Match

variable {rules : Rules} {before : Option Char} {key low high : List Char}

/-- The first two points in a row are those after the first literal. -/
theorem splitRange?_append (hlow : Literal.Plain 1 low) (high : List Char) :
    splitRange? (low ++ '.' :: '.' :: high) = some (low, high) := by
  induction low with
  | nil => rfl
  | cons c low ih =>
      obtain ⟨hchars, hpoints, hlast⟩ := hlow
      cases low with
      | nil =>
          have hc : c ≠ '.' := by simpa using hlast
          simp [splitRange?, hc]
      | cons d low =>
          rw [List.getLast?_cons_cons] at hlast
          have hrest : Literal.Plain 1 (d :: low) :=
            ⟨(List.forall_mem_cons.mp hchars).2,
              Nat.le_trans ((List.sublist_cons_self c _).count_le '.') hpoints, hlast⟩
          -- Two points in a row would be one too many.
          have hpair : ∀ rest, c = '.' → d :: (low ++ '.' :: '.' :: high) = '.' :: rest → False := by
            rintro rest rfl h
            obtain ⟨rfl, -⟩ := List.cons_eq_cons.mp h
            rw [List.count_cons_self, List.count_cons_self] at hpoints
            omega
          rw [List.cons_append, List.cons_append, splitRange?, ← List.cons_append, ih hrest]
          · rfl
          · exact hpair

/-! ## The match -/

/-- Only literals are the ends of a range. -/
theorem ne_neither_of_rangeReading? {key : String} {r : Reading} {x y : Literal.Reading}
    (h : rangeReading? key x y = some r) : x ≠ .neither ∧ y ≠ .neither := by
  constructor
  · rintro rfl
    cases h
  · rintro rfl
    cases x with
    | valid l => cases l <;> cases h
    | malformed | neither => cases h

/-- The text of a range. -/
def rangeText (key low high : List Char) : List Char := key ++ ':' :: (low ++ '.' :: '.' :: high)

theorem isLiteralChar_range {c : Char} (hlow : Literal.classify low ≠ .neither)
    (hhigh : Literal.classify high ≠ .neither) (hc : c ∈ low ++ '.' :: '.' :: high) :
    Literal.isLiteralChar c = true := by
  have hpoint : Literal.isLiteralChar '.' = true := by decide
  simp only [List.mem_append, List.mem_cons] at hc
  rcases hc with hc | rfl | rfl | hc
  · exact (Literal.plain_of_classify hlow).1.chars c hc
  · exact hpoint
  · exact hpoint
  · exact (Literal.plain_of_classify hhigh).1.chars c hc

/-- A range consists of characters of keys and literals. -/
theorem mem_rangeText {c : Char} (hkey : isKey key = true) (hlow : Literal.classify low ≠ .neither)
    (hhigh : Literal.classify high ≠ .neither) (hc : c ∈ rangeText key low high) :
    isKeyChar c = true ∨ Literal.isLiteralChar c = true := by
  rcases List.mem_append.mp hc with hc | hc
  · exact .inl (isKeyChar_of_mem hkey hc)
  · rcases List.mem_cons.mp hc with rfl | hc
    · exact .inr (by decide)
    · exact .inr (isLiteralChar_range hlow hhigh hc)

theorem isBlank_of_mem_rangeText {c : Char} (hkey : isKey key = true)
    (hlow : Literal.classify low ≠ .neither) (hhigh : Literal.classify high ≠ .neither)
    (hc : c ∈ rangeText key low high) : Text.isBlank c = false := by
  rcases mem_rangeText hkey hlow hhigh hc with hchar | hchar
  · exact Text.isBlank_of_blankCodes (by decide +kernel) hchar
  · exact Text.isBlank_of_blankCodes (by decide +kernel) hchar

theorem range?_rangeText {r : Reading} (hkey : isKey key = true)
    (hr : rangeReading? (String.ofList key) (Literal.classify low) (Literal.classify high) = some r) :
    range? (rangeText key low high) = some (ofLiteral key [':'] (low ++ '.' :: '.' :: high) r) := by
  obtain ⟨hlow, hhigh⟩ := ne_neither_of_rangeReading? hr
  have hscan : key? (rangeText key low high) = some (key, ':' :: (low ++ '.' :: '.' :: high)) :=
    key?_colon hkey _
  have hliteral : (low ++ '.' :: '.' :: high).takeWhile Literal.isLiteralChar =
      low ++ '.' :: '.' :: high :=
    List.takeWhile_eq_self_iff.mpr fun c hc => isLiteralChar_range hlow hhigh hc
  have hsplit := splitRange?_append (Literal.plain_of_classify hlow).1 high
  simp [range?, hscan, comparison?, Comparison.isEquality, hliteral, hsplit, hr, ofLiteral]

/-- **Ranges are read.** -/
theorem at?_rangeText {r : Reading} (hkey : isKey key = true)
    (hr : rangeReading? (String.ofList key) (Literal.classify low) (Literal.classify high) = some r) :
    at? rules before (rangeText key low high) =
      some (ofLiteral key [':'] (low ++ '.' :: '.' :: high) r) := by
  obtain ⟨hopen, hclose, hnegation⟩ :=
    no_sign_of_isKey hkey before (':' :: (low ++ '.' :: '.' :: high))
  have hlength : (rangeText key low high).length =
      (ofLiteral key [':'] (low ++ '.' :: '.' :: high) r).length := by
    simp [rangeText, ofLiteral]
    omega
  have hshorter : ∀ {m : Match}, SpelledAt rules (rangeText key low high) m →
      ¬ (ofLiteral key [':'] (low ++ '.' :: '.' :: high) r).length < m.length := by
    intro m hm
    rw [← hlength]
    exact Nat.not_lt.mpr hm.length_le
  rw [← rangeText] at hopen hclose hnegation
  rw [at?, hopen, hclose, hnegation, range?_rangeText hkey hr]
  cases hcompared : compared? (rangeText key low high) with
  | none =>
      cases hterm : term? rules (rangeText key low high) with
      | none => rfl
      | some m => simp [longest, hshorter (spelledAt_of_term? hterm)]
  | some m =>
      have hm := hshorter (spelledAt_of_compared? hcompared)
      cases hterm : term? rules (rangeText key low high) with
      | none => simp [longest, hm]
      | some m' => simp [longest, hm, hshorter (spelledAt_of_term? hterm)]

end Match

/-! ## The tokens -/

namespace Literal

/-- Both are numbers, or both are dates. -/
def SameKind : Literal → Literal → Prop
  | number _, number _ | period _, period _ => True
  | number _, period _ | period _, number _ => False

instance (a b : Literal) : Decidable (a.SameKind b) := by
  cases a <;> cases b <;> unfold SameKind <;> infer_instance

/-- The comparisons with the two ends of a range. -/
def bounds (key : String) (low high : Literal) : List Token.Kind :=
  low.kinds key .atLeast ++ high.kinds key .atMost

/-- What a range is read as. -/
def rangeKinds (key : String) (low high : Literal) : List Token.Kind :=
  match low with
  | number _ => bounds key low high
  | period _ => .openGroup false :: (bounds key low high ++ [.closeGroup])

theorem rangeReading?_valid (key : String) {low high : Literal} (h : low.SameKind high) :
    Match.rangeReading? key (.valid low) (.valid high) = some (.tokens (rangeKinds key low high)) := by
  cases low with
  | number a =>
      cases high with
      | number b => rfl
      | period b => cases h
  | period a =>
      cases high with
      | period b => rfl
      | number b => cases h

end Literal

variable {key low high : List Char} {a b : Literal}

/-- A range is read as its two bounds, whatever stands before it, if a blank or the end of a group
comes after it. -/
theorem reads_rangeText (before : Option Char) (hkey : Match.isKey key = true)
    (ha : Literal.classify low = .valid a) (hb : Literal.classify high = .valid b) (hkind : a.SameKind b) {rest : List Char}
    (hrest : Match.StartsWithStop rest) :
    Reads {} before (Match.rangeText key low high) rest
      (Literal.rangeKinds (String.ofList key) a b) := by
  have hlow : Literal.classify low ≠ .neither := by simp [ha]
  have hhigh : Literal.classify high ≠ .neither := by simp [hb]
  have hr : Match.rangeReading? (String.ofList key) (Literal.classify low) (Literal.classify high) =
      some (.tokens (Literal.rangeKinds (String.ofList key) a b)) := by
    rw [ha, hb]
    exact Literal.rangeReading?_valid _ hkind
  have hne : Match.rangeText key low high ≠ [] := by simp [Match.rangeText]
  have hplain : ∀ c ∈ Match.rangeText key low high, c ≠ '"' ∧ c ≠ '/' := by
    intro c hc
    have hno : (Match.isKeyChar '"' = false ∧ Literal.isLiteralChar '"' = false) ∧
        Match.isKeyChar '/' = false ∧ Literal.isLiteralChar '/' = false := by decide +kernel
    constructor
    · rintro rfl
      simpa [hno.1] using Match.mem_rangeText hkey hlow hhigh hc
    · rintro rfl
      simpa [hno.2] using Match.mem_rangeText hkey hlow hhigh hc
  have hblank : (Match.rangeText key low high).head?.any Text.isBlank = false := by
    cases key with
    | nil => simp [Match.isKey] at hkey
    | cons d key => simpa [Match.rangeText] using Match.isBlank_of_isKeyStart (Bool.and_eq_true_iff.mp hkey).1
  refine .of_at? hne hplain hblank (Match.at?_rangeText hkey hr) ?_ rfl rfl hrest
  simp only [Match.rangeText, Match.ofLiteral, List.length_append, List.length_cons, List.length_nil]
  omega

end RecordQuery
