import Mathlib.Algebra.Ring.Nat
import Mathlib.Data.List.Basic
import RecordQuery.Number.Numeral
import RecordQuery.Time.Instant

/-!
# Digits with zeros in front

A number below a power of ten is written in as many digits in one way only, and a run of digits is how its
value is written.
-/

namespace RecordQuery

namespace Numeral

theorem natOfDigits_eq (digits : List Char) : natOfDigits digits = Nat.ofDigitChars 10 digits 0 :=
  Nat.ofDigitChars_eq_foldl.symm

theorem natOfDigits_cons (c : Char) (run : List Char) :
    natOfDigits (c :: run) = 10 ^ run.length * (c.toNat - 48) + natOfDigits run := by
  rw [natOfDigits_eq, natOfDigits_eq, Nat.ofDigitChars_cons, Nat.ofDigitChars_eq_ofDigitChars_zero,
    Nat.mul_zero, Nat.zero_add]
  rfl

theorem toNat_of_isDigit {c : Char} (h : c.isDigit = true) : 48 ≤ c.toNat ∧ c.toNat ≤ 57 := by
  simpa [Char.isDigit, UInt32.le_iff_toNat_le] using h

/-- A digit is no other character. -/
theorem ne_of_isDigit {c d : Char} (hc : c.isDigit = true) (hd : d.isDigit = false) : c ≠ d := by
  rintro rfl
  rw [hc] at hd
  cases hd

variable {run other : List Char}

theorem natOfDigits_lt (hrun : ∀ c ∈ run, c.isDigit = true) : natOfDigits run < 10 ^ run.length := by
  induction run with
  | nil => decide
  | cons c run ih =>
      obtain ⟨hc, hrun⟩ := List.forall_mem_cons.mp hrun
      have hrest := ih hrun
      have hdigit := toNat_of_isDigit hc
      have hle : 10 ^ run.length * (c.toNat - 48) ≤ 10 ^ run.length * 9 :=
        Nat.mul_le_mul_left _ (by omega)
      rw [natOfDigits_cons, List.length_cons, Nat.pow_succ]
      omega

/-- Runs of digits of one length have different values. -/
theorem eq_of_natOfDigits_eq (hlength : run.length = other.length) (hrun : ∀ c ∈ run, c.isDigit = true)
    (hother : ∀ c ∈ other, c.isDigit = true) (h : natOfDigits run = natOfDigits other) : run = other := by
  induction run generalizing other with
  | nil => exact (List.length_eq_zero_iff.mp hlength.symm).symm
  | cons c run ih =>
      obtain ⟨d, other, rfl⟩ := List.exists_cons_of_length_eq_add_one hlength.symm
      obtain ⟨hc, hrun⟩ := List.forall_mem_cons.mp hrun
      obtain ⟨hd, hother⟩ := List.forall_mem_cons.mp hother
      have hlength : run.length = other.length := Nat.succ.inj hlength
      have hltRun := natOfDigits_lt hrun
      have hltOther := natOfDigits_lt hother
      rw [natOfDigits_cons, natOfDigits_cons, hlength] at h
      rw [hlength] at hltRun
      -- The first digit is the quotient by the power of ten, the value of the rest the remainder.
      have hfirst : c.toNat - 48 = d.toNat - 48 := by
        have hquotient := congrArg (· / 10 ^ other.length) h
        simpa [Nat.mul_add_div (Nat.pow_pos (n := other.length) (show 0 < 10 by decide)),
          Nat.div_eq_of_lt hltRun, Nat.div_eq_of_lt hltOther] using hquotient
      have hrest : natOfDigits run = natOfDigits other := by
        rw [hfirst] at h
        exact Nat.add_left_cancel h
      have hcd : c = d := by
        have hcRange := toNat_of_isDigit hc
        have hdRange := toNat_of_isDigit hd
        exact Char.toNat_inj.mp (by omega)
      rw [hcd, ih hlength hrun hother hrest]

end Numeral

namespace Instant

variable {width n : Nat}

theorem isDigit_of_mem_padded {c : Char} (hc : c ∈ padded width n) : c.isDigit = true := by
  rcases List.mem_append.mp hc with hzero | hdigit
  · obtain rfl := List.eq_of_mem_replicate hzero
    rfl
  · exact Nat.isDigit_of_mem_toDigits (by decide) (by decide) hdigit

theorem length_padded (hwidth : 0 < width) (hn : n < 10 ^ width) : (padded width n).length = width := by
  have hle := (Nat.length_toDigits_le_iff (by decide) hwidth).mpr hn
  rw [padded, List.length_append, List.length_replicate]
  exact Nat.sub_add_cancel hle

/-- The zeros in front do not count. -/
theorem natOfDigits_padded (width n : Nat) : Numeral.natOfDigits (padded width n) = n := by
  rw [Numeral.natOfDigits_eq, padded, Nat.ofDigitChars_append, Nat.ofDigitChars_replicate_zero,
    Nat.mul_zero, Nat.ofDigitChars_ten_toDigits]

/-- Digits start with a digit. -/
theorem exists_padded (width n : Nat) :
    ∃ c rest, padded width n = c :: rest ∧ c.isDigit = true := by
  cases h : padded width n with
  | nil => simp [padded] at h
  | cons c rest => exact ⟨c, rest, rfl, isDigit_of_mem_padded (h ▸ List.mem_cons_self)⟩

/-- A run of digits is how its value is written. -/
theorem padded_natOfDigits {run : List Char} (hne : run ≠ []) (hrun : ∀ c ∈ run, c.isDigit = true) :
    padded run.length (Numeral.natOfDigits run) = run :=
  Numeral.eq_of_natOfDigits_eq
    (length_padded (List.length_pos_iff.mpr hne) (Numeral.natOfDigits_lt hrun))
    (fun _ => isDigit_of_mem_padded) hrun (natOfDigits_padded _ _)

end Instant

end RecordQuery
