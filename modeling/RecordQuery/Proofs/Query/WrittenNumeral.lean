import RecordQuery.Proofs.Number.Overflow
import RecordQuery.Proofs.Query.Spelling
import RecordQuery.Proofs.Time.Padded
import RecordQuery.Query.Literal

/-!
# Numerals as they are written

A number literal is an optional sign and digits, and optionally a point with digits behind it. Its value
is the number nearest to that decimal, which is finite up to a bound.
-/

namespace RecordQuery

/-- One digit or more. -/
structure DigitRun where
  chars : List Char
  ne_nil : chars ≠ [] := by decide
  isDigit : ∀ c ∈ chars, c.isDigit = true := by decide
  deriving DecidableEq, Repr

/-- A numeral as it is written. -/
structure WrittenNumeral where
  /-- The sign, if there is one: whether it is a minus. -/
  sign : Option Bool
  whole : DigitRun
  fraction : Option DigitRun
  deriving DecidableEq, Repr

namespace WrittenNumeral

def signText : Option Bool → List Char
  | none => []
  | some minus => [if minus then '-' else '+']

def fractionText : Option DigitRun → List Char
  | none => []
  | some run => '.' :: run.chars

variable (n : WrittenNumeral)

/-- The text behind the sign. -/
def body : List Char := n.whole.chars ++ fractionText n.fraction

def text : List Char := signText n.sign ++ n.body

def decimals : List Char := n.fraction.elim [] DigitRun.chars

/-- The number without its point and sign. -/
def coefficient : Nat := Numeral.natOfDigits (n.whole.chars ++ n.decimals)

/-- How many digits stand behind the point. -/
def places : Nat := n.decimals.length

/-- The number nearest to the decimal. -/
def value : Number :=
  .real (n.sign.getD false) (Magnitude.ofDecimal n.coefficient (-n.places))

/-- The value is finite if the decimal lies below the bound. -/
theorem isFinite_value :
    n.value.isFinite = true ↔ n.coefficient < 10 ^ n.places * Magnitude.overflow := by
  rw [← Magnitude.ofDecimal_lt_infinity]
  exact decide_eq_true_iff

/-! ## Reading -/

theorem exists_whole : ∃ c rest, n.whole.chars = c :: rest ∧ c.isDigit = true := by
  obtain ⟨c, rest, hchars⟩ := List.exists_cons_of_ne_nil n.whole.ne_nil
  exact ⟨c, rest, hchars, n.whole.isDigit c (hchars ▸ List.mem_cons_self)⟩

theorem sign_text : Numeral.sign n.text = (n.sign.getD false, n.body) := by
  obtain ⟨c, rest, hchars, hc⟩ := n.exists_whole
  rw [text, body, hchars]
  cases n.sign with
  | some minus => cases minus <;> rfl
  | none =>
      have hminus : c ≠ '-' := Numeral.ne_of_isDigit hc rfl
      have hplus : c ≠ '+' := Numeral.ne_of_isDigit hc rfl
      simp [signText, Numeral.sign, hminus, hplus]

/-- A scan that takes digits and no point takes the digits in front of the point. -/
theorem takeWhile_body {p : Char → Bool} (hdigit : ∀ c, c.isDigit = true → p c = true)
    (hpoint : p '.' = false) :
    n.body.takeWhile p = n.whole.chars ∧ n.body.dropWhile p = fractionText n.fraction := by
  refine Match.takeWhile_append_of_stop (fun c hc => hdigit c (n.whole.isDigit c hc)) ?_
  cases n.fraction with
  | none => rfl
  | some run => simp [fractionText, hpoint]

theorem isNumeral_text : Literal.isNumeral n.text = true := by
  have hnot : ∀ c, c.isDigit = true → (c != '.') = true := by
    intro c hc
    rw [bne_iff_ne]
    exact Numeral.ne_of_isDigit hc rfl
  obtain ⟨htake, hdrop⟩ := n.takeWhile_body hnot rfl
  have hwhole := List.all_eq_true.mpr n.whole.isDigit
  have hpoint : n.body.contains '.' = n.fraction.isSome := by
    have hnone : '.' ∉ n.whole.chars := by
      intro hmem
      cases n.whole.isDigit '.' hmem
    cases hf : n.fraction <;> simp [body, hnone, hf, fractionText]
  unfold Literal.isNumeral
  simp only [sign_text, htake, hdrop, hwhole, hpoint]
  cases hf : n.fraction with
  | none => simp [n.whole.ne_nil]
  | some run =>
      have hrun := List.all_eq_true.mpr run.isDigit
      simp [n.whole.ne_nil, fractionText, run.ne_nil, hrun]

theorem magnitude?_body :
    Numeral.magnitude? n.body = some (Magnitude.ofDecimal n.coefficient (-n.places)) := by
  obtain ⟨htake, hdrop⟩ := n.takeWhile_body (fun _ => id) (rfl : Char.isDigit '.' = false)
  have hne := n.whole.ne_nil
  unfold Numeral.magnitude? Numeral.digitsAndPoint
  simp only [htake, hdrop]
  cases hf : n.fraction with
  | none => simp [fractionText, Numeral.exponent?, coefficient, places, decimals, hf, hne]
  | some run =>
      have hstop : ([] : List Char).head?.all (!Char.isDigit ·) = true := rfl
      obtain ⟨hrun, hnil⟩ := Match.takeWhile_append_of_stop run.isDigit hstop
      rw [List.append_nil] at hrun hnil
      simp [fractionText, Numeral.exponent?, coefficient, places, decimals, hf, hne, hrun, hnil]

/-- No digit starts the name of a number. -/
theorem name_body (name : String) (hname : name.toList.head?.all (!Char.isDigit ·) = true) :
    String.ofList (n.body.map Char.toLower) ≠ name := by
  have hdigits : ∀ k < 10, (Char.ofNat (48 + k)).toLower.isDigit = true := by decide
  rintro rfl
  obtain ⟨c, rest, hchars, hc⟩ := n.exists_whole
  have hrange := Numeral.toNat_of_isDigit hc
  have hlower := hdigits (c.toNat - 48) (by omega)
  rw [Nat.add_sub_cancel' hrange.1, Char.ofNat_toNat] at hlower
  simp [body, hchars, hlower] at hname

theorem read?_text : Numeral.read? n.text = some n.value := by
  have hnan := n.name_body "nan" rfl
  have hinf := n.name_body "inf" rfl
  have hinfinity := n.name_body "infinity" rfl
  simp only [Numeral.read?, sign_text, hnan, hinf, hinfinity, magnitude?_body, value, decide_false,
    Bool.or_self, if_false, Option.map_some, Bool.false_eq_true]

/-- **Numerals are written.** Text with the shape of a numeral is that of a written numeral. -/
theorem exists_of_isNumeral {text : List Char} (h : Literal.isNumeral text = true) :
    ∃ n : WrittenNumeral, n.text = text := by
  obtain ⟨sign, hsign⟩ : ∃ sign, signText sign ++ (Numeral.sign text).2 = text := by
    unfold Numeral.sign
    split
    · exact ⟨some true, rfl⟩
    · exact ⟨some false, rfl⟩
    · exact ⟨none, rfl⟩
  unfold Literal.isNumeral at h
  generalize (Numeral.sign text).2 = body at h hsign
  simp only [Bool.and_eq_true, Bool.or_eq_true, Bool.not_eq_true', List.all_eq_true,
    List.isEmpty_eq_false_iff] at h
  obtain ⟨⟨hne, hwhole⟩, hfraction⟩ := h
  have hpoint := List.head?_dropWhile_not (· != '.') body
  have hbody := List.takeWhile_append_dropWhile (p := (· != '.')) (l := body)
  cases hrest : body.dropWhile (· != '.') with
  | nil =>
      refine ⟨⟨sign, ⟨_, hne, hwhole⟩, none⟩, ?_⟩
      rw [hrest] at hbody
      show signText sign ++ (body.takeWhile (· != '.') ++ []) = text
      rw [hbody, hsign]
  | cons c rest =>
      obtain rfl : c = '.' := by simpa [hrest] using hpoint
      have hmem : '.' ∈ body :=
        (List.dropWhile_suffix (· != '.')).subset (hrest ▸ List.mem_cons_self ..)
      have hdigits : rest ≠ [] ∧ ∀ d ∈ rest, d.isDigit = true := by
        simpa [hrest, hmem] using hfraction
      refine ⟨⟨sign, ⟨_, hne, hwhole⟩, some ⟨rest, hdigits.1, hdigits.2⟩⟩, ?_⟩
      rw [hrest] at hbody
      show signText sign ++ (body.takeWhile (· != '.') ++ '.' :: rest) = text
      rw [hbody, hsign]

end WrittenNumeral

end RecordQuery
