import Mathlib.Data.Nat.Log
import Mathlib.Tactic.Positivity
import Mathlib.Tactic.Ring
import RecordQuery.Number.Rounding

/-!
# Overflow

The decimals whose nearest number is finite. They lie below the middle between the greatest finite number
and the next power of two, where the tie goes to the even mantissa and so to infinity.
-/

namespace RecordQuery

/-! ## Rounded quotients -/

variable {num den m : Nat}

theorem le_roundDiv (hden : 0 < den) (h : den * m ≤ num) : m ≤ roundDiv num den := by
  have hquotient : m ≤ num / den := (Nat.le_div_iff_mul_le hden).mpr (Nat.mul_comm den m ▸ h)
  unfold roundDiv
  dsimp only
  split
  · exact Nat.le_succ_of_le hquotient
  · exact hquotient

theorem roundDiv_le (h : num < den * m) : roundDiv num den ≤ m := by
  have hquotient : num / den < m := Nat.div_lt_of_lt_mul h
  unfold roundDiv
  dsimp only
  split
  · exact hquotient
  · exact Nat.le_of_lt hquotient

/-- Below an even number, a quotient is rounded to that number from the middle on. -/
theorem roundDiv_lt_iff (hden : 0 < den) (h : num < den * m) (heven : m % 2 = 0) :
    roundDiv num den < m ↔ 2 * num < den * (2 * m - 1) := by
  have hquotient : num / den < m := Nat.div_lt_of_lt_mul h
  have hsplit := Nat.div_add_mod num den
  have hremainder := Nat.mod_lt num hden
  by_cases hlast : num / den + 1 = m
  · have hmiddle : den * (2 * m - 1) = 2 * (den * (num / den)) + den := by
      rw [← hlast, show 2 * (num / den + 1) - 1 = 2 * (num / den) + 1 by omega]
      ring
    have hround : roundDiv num den < m ↔ ¬ den ≤ 2 * (num % den) := by
      unfold roundDiv
      simp only [Bool.or_eq_true, Bool.and_eq_true, decide_eq_true_eq, beq_iff_eq]
      split
      · omega
      · omega
    rw [hround, hmiddle]
    omega
  · have hbelow : den * (num / den + 2) ≤ den * m := Nat.mul_le_mul_left den (by omega)
    have hround : roundDiv num den ≤ num / den + 1 := roundDiv_le (by
      rw [Nat.mul_add]
      omega)
    have hmiddle : den * (2 * m - 1) = 2 * (den * m) - den := by
      rw [Nat.mul_sub_one]
      ring_nf
    rw [Nat.mul_add] at hbelow
    rw [hmiddle]
    omega

namespace Magnitude

/-! ## Exponents -/

theorem binade_eq : binade = 2 ^ 52 := by decide

/-- The sizes of its two sides tell a quotient up to two bits. -/
theorem inUnits_size (hnum : 0 < num) (hden : 0 < den) {p q k : Nat}
    (h : num.log2 + p = den.log2 + k + 1 + q) :
    den * 2 ^ q * 2 ^ k ≤ num * 2 ^ p ∧ num * 2 ^ p < den * 2 ^ q * 2 ^ (k + 2) := by
  have hnumLow : 2 ^ num.log2 ≤ num := Nat.log2_self_le (Nat.ne_of_gt hnum)
  have hnumHigh : num < 2 ^ (num.log2 + 1) := Nat.lt_log2_self
  have hdenLow : 2 ^ den.log2 ≤ den := Nat.log2_self_le (Nat.ne_of_gt hden)
  have hdenHigh : den < 2 ^ (den.log2 + 1) := Nat.lt_log2_self
  constructor
  · calc den * 2 ^ q * 2 ^ k ≤ 2 ^ (den.log2 + 1) * 2 ^ q * 2 ^ k := by gcongr
      _ = 2 ^ num.log2 * 2 ^ p := by
        rw [← Nat.pow_add, ← Nat.pow_add, ← Nat.pow_add, h]
        congr 1
        omega
      _ ≤ num * 2 ^ p := by gcongr
  · calc num * 2 ^ p < 2 ^ (num.log2 + 1) * 2 ^ p := by gcongr
      _ = 2 ^ den.log2 * 2 ^ q * 2 ^ (k + 2) := by
        rw [← Nat.pow_add, ← Nat.pow_add, ← Nat.pow_add]
        congr 1
        omega
      _ ≤ den * 2 ^ q * 2 ^ (k + 2) := by gcongr

/-- In units of half the size, a quotient is twice as large. -/
theorem inUnits_half {e : Int} {k : Nat}
    (h : num * 2 ^ (-e).toNat < den * 2 ^ e.toNat * 2 ^ k) :
    num * 2 ^ (-(e - 1)).toNat < den * 2 ^ (e - 1).toNat * 2 ^ (k + 1) := by
  by_cases hle : e ≤ 0
  · have hp : (-(e - 1)).toNat = (-e).toNat + 1 := by omega
    have hq : (e - 1).toNat = e.toNat := by omega
    rw [hp, hq, Nat.pow_succ, Nat.pow_succ, ← Nat.mul_assoc, ← Nat.mul_assoc]
    omega
  · have hp : (-(e - 1)).toNat = (-e).toNat := by omega
    have hq : e.toNat = (e - 1).toNat + 1 := by omega
    rw [hq] at h
    rw [hp]
    calc num * 2 ^ (-e).toNat < den * 2 ^ ((e - 1).toNat + 1) * 2 ^ k := h
      _ = den * 2 ^ (e - 1).toNat * 2 ^ (k + 1) := by ring

/-- With the exponent chosen for it, a quotient has no more than 53 bits, and no less unless the exponent
is the least. -/
theorem unitExponent_size (hnum : 0 < num) (hden : 0 < den) {e : Int}
    (he : unitExponent num den = e) :
    num * 2 ^ (-e).toNat < den * 2 ^ e.toNat * 2 ^ 53 ∧
      (-1074 < e → den * 2 ^ e.toNat * 2 ^ 52 ≤ num * 2 ^ (-e).toNat) := by
  -- The exponent before the least one is put in its place.
  obtain ⟨e', hmax, hhigh, hlow⟩ : ∃ e' : Int, max (-1074) e' = e ∧
      num * 2 ^ (-e').toNat < den * 2 ^ e'.toNat * 2 ^ 53 ∧
      den * 2 ^ e'.toNat * 2 ^ 52 ≤ num * 2 ^ (-e').toNat := by
    obtain ⟨first, hfirst⟩ : ∃ first : Int, (num.log2 : Int) - den.log2 - 52 = first := ⟨_, rfl⟩
    simp only [unitExponent, inUnits, hfirst, twoTo, Nat.pow_eq] at he
    refine ⟨_, he, ?_⟩
    split
    · next hless =>
        have hnext := inUnits_size hnum hden (p := (-(first - 1)).toNat) (q := (first - 1).toNat)
          (k := 52) (by omega)
        rw [binade_eq] at hless
        exact ⟨inUnits_half hless, hnext.1⟩
    · next hmore =>
        have hsize := inUnits_size hnum hden (p := (-first).toNat) (q := first.toNat)
          (k := 51) (by omega)
        rw [binade_eq] at hmore
        exact ⟨hsize.2, Nat.le_of_not_lt hmore⟩
  rcases Int.le_total (-1074) e' with hle | hle
  · obtain rfl : e' = e := by omega
    exact ⟨hhigh, fun _ => hlow⟩
  · refine ⟨?_, fun hlt => absurd hlt (by omega)⟩
    have hzero : e.toNat = 0 ∧ e'.toNat = 0 := by omega
    rw [hzero.2] at hhigh
    rw [hzero.1]
    refine Nat.lt_of_le_of_lt ?_ hhigh
    gcongr
    · decide
    · omega

/-! ## Finite magnitudes -/

/-- From here on numbers round to infinity: half a unit above the greatest finite number. -/
def overflow : Nat := (2 ^ 54 - 1) * 2 ^ 970

theorem atPlace_lt_infinity (k : Nat) : (atPlace k).val < infinityPlace ↔ k < infinityPlace := by
  show min k infinityPlace < infinityPlace ↔ _
  omega

theorem le_overflow : 2 ^ 970 * 2 ^ 53 ≤ overflow := by decide +kernel

theorem overflow_le : overflow ≤ 2 ^ 972 * 2 ^ 52 := by decide +kernel

theorem two_mul_overflow : 2 ^ 971 * (2 * 2 ^ 53 - 1) = 2 * overflow := by decide +kernel

theorem two_mul_binade : 2 * binade = 2 ^ 53 := by decide

theorem ofQuotient_eq (hnum : 0 < num) {e : Int} (he : unitExponent num den = e) :
    ofQuotient num den =
      atPlace ((e + 1074).toNat * binade + roundDiv (num * 2 ^ (-e).toNat) (den * 2 ^ e.toNat)) := by
  subst he
  rw [ofQuotient, if_neg (Nat.ne_of_gt hnum)]
  rfl

/-- With a smaller exponent than the greatest finite number, a quotient lies below the bound. -/
theorem lt_overflow_of_exponent {e : Int} (he : e < 971)
    (hhigh : num * 2 ^ (-e).toNat < den * 2 ^ e.toNat * 2 ^ 53) : num < den * overflow :=
  calc num ≤ num * 2 ^ (-e).toNat := Nat.le_mul_of_pos_right _ (by positivity)
    _ < den * 2 ^ e.toNat * 2 ^ 53 := hhigh
    _ ≤ den * 2 ^ 970 * 2 ^ 53 := by
      gcongr
      · decide
      · omega
    _ = den * (2 ^ 970 * 2 ^ 53) := Nat.mul_assoc _ _ _
    _ ≤ den * overflow := Nat.mul_le_mul_left _ le_overflow

/-- With a greater exponent, it does not. -/
theorem overflow_le_of_exponent {e : Int} (he : 971 < e)
    (hlow : den * 2 ^ e.toNat * 2 ^ 52 ≤ num * 2 ^ (-e).toNat) : den * overflow ≤ num :=
  calc den * overflow ≤ den * (2 ^ 972 * 2 ^ 52) := Nat.mul_le_mul_left _ overflow_le
    _ = den * 2 ^ 972 * 2 ^ 52 := (Nat.mul_assoc _ _ _).symm
    _ ≤ den * 2 ^ e.toNat * 2 ^ 52 := by
      gcongr
      · decide
      · omega
    _ ≤ num * 2 ^ (-e).toNat := hlow
    _ = num := by rw [show (-e).toNat = 0 by omega, Nat.pow_zero, Nat.mul_one]

/-- **Overflow.** A quotient rounds to a finite number if it lies below the bound. -/
theorem ofQuotient_lt_infinity (hden : 0 < den) :
    (ofQuotient num den).val < infinityPlace ↔ num < den * overflow := by
  rcases Nat.eq_zero_or_pos num with rfl | hnum
  · have hpos : 0 < den * overflow := Nat.mul_pos hden (by decide +kernel)
    simpa [ofQuotient, atPlace_lt_infinity, hpos] using (by decide : 0 < infinityPlace)
  · obtain ⟨e, he⟩ : ∃ e, unitExponent num den = e := ⟨_, rfl⟩
    obtain ⟨hhigh, hlow⟩ := unitExponent_size hnum hden he
    rw [ofQuotient_eq hnum he, atPlace_lt_infinity, infinityPlace]
    rcases Int.lt_trichotomy e 971 with hless | rfl | hmore
    · have hround := roundDiv_le hhigh
      have hplace : (e + 1074).toNat * binade ≤ 2044 * binade := Nat.mul_le_mul_right _ (by omega)
      rw [← two_mul_binade] at hround
      have hbinade : 0 < binade := by decide
      generalize roundDiv _ _ = rounded at hround
      refine iff_of_true ?_ (lt_overflow_of_exponent hless hhigh)
      omega
    · have hone : (-971 : Int).toNat = 0 := rfl
      have hexponent : (971 : Int).toNat = 971 := rfl
      have hsum : (971 + 1074 : Int).toNat = 2045 := rfl
      rw [hone, hexponent, Nat.pow_zero, Nat.mul_one] at hhigh ⊢
      rw [hsum]
      have hround := roundDiv_lt_iff (by positivity) hhigh (by decide +kernel)
      have hmiddle : den * 2 ^ 971 * (2 * 2 ^ 53 - 1) = 2 * (den * overflow) := by
        rw [Nat.mul_assoc, two_mul_overflow, Nat.mul_left_comm]
      rw [hmiddle, ← two_mul_binade] at hround
      generalize roundDiv _ _ = rounded at hround ⊢
      generalize den * overflow = bound at hround ⊢
      omega
    · have hround := le_roundDiv (by positivity) (hlow (by omega))
      have hplace : 2046 * binade ≤ (e + 1074).toNat * binade := Nat.mul_le_mul_right _ (by omega)
      rw [← binade_eq] at hround
      generalize roundDiv _ _ = rounded at hround
      refine iff_of_false ?_ (Nat.not_lt_of_le (overflow_le_of_exponent hmore (hlow (by omega))))
      omega

/-- A number lies between the powers of ten with its digits and with one less. -/
theorem toDigits_length_bounds {n : Nat} (hn : 0 < n) {size : Nat}
    (hsize : (Nat.toDigits 10 n).length = size) : n < 10 ^ size ∧ 10 ^ (size - 1) ≤ n := by
  have hpos : 0 < size := hsize ▸ List.length_pos_iff.mpr Nat.toDigits_ne_nil
  refine ⟨(Nat.length_toDigits_le_iff (by decide) hpos).mp (Nat.le_of_eq hsize), ?_⟩
  by_contra hless
  rcases Nat.eq_zero_or_pos (size - 1) with hone | hmany
  · rw [hone] at hless
    omega
  · have hle := (Nat.length_toDigits_le_iff (by decide) hmany).mpr (Nat.lt_of_not_le hless)
    omega

theorem overflow_le_tenTo : overflow ≤ 10 ^ 310 := by decide +kernel

/-- **Decimals that overflow.** A decimal rounds to a finite number if it lies below the bound. -/
theorem ofDecimal_lt_infinity (coefficient places : Nat) :
    (ofDecimal coefficient (-places)).val < infinityPlace ↔ coefficient < 10 ^ places * overflow := by
  have hzero : (atPlace 0).val < infinityPlace := (atPlace_lt_infinity 0).mpr (by decide)
  have hbound : 0 < overflow := by decide +kernel
  rcases Nat.eq_zero_or_pos coefficient with rfl | hcoefficient
  · have hpos : 0 < 10 ^ places * overflow := Nat.mul_pos (by positivity) hbound
    simpa [ofDecimal, hpos] using hzero
  · obtain ⟨size, hsize⟩ : ∃ size, (Nat.toDigits 10 coefficient).length = size := ⟨_, rfl⟩
    obtain ⟨hhigh, hlow⟩ := toDigits_length_bounds hcoefficient hsize
    have hpower : (-(places : Int)).toNat = 0 ∧ (- -(places : Int)).toNat = places := by omega
    simp only [ofDecimal, hsize, Nat.ne_of_gt hcoefficient, decide_false, Bool.false_or,
      decide_eq_true_eq, hpower, Nat.pow_eq, Nat.pow_zero, Nat.mul_one]
    split
    · next hsmall =>
        refine iff_of_true hzero ?_
        calc coefficient < 10 ^ size := hhigh
          _ ≤ 10 ^ places := Nat.pow_le_pow_right (by decide) (by omega)
          _ ≤ 10 ^ places * overflow := Nat.le_mul_of_pos_right _ hbound
    · split
      · next hlarge =>
          refine iff_of_false (Nat.lt_irrefl _) (Nat.not_lt_of_le ?_)
          calc 10 ^ places * overflow ≤ 10 ^ places * 10 ^ 310 :=
                Nat.mul_le_mul_left _ overflow_le_tenTo
            _ = 10 ^ (places + 310) := by rw [Nat.pow_add]
            _ ≤ 10 ^ (size - 1) := Nat.pow_le_pow_right (by decide) (by omega)
            _ ≤ coefficient := hlow
      · exact ofQuotient_lt_infinity (by positivity)

end Magnitude

end RecordQuery
