import RecordQuery.Toml.Scalar
import Mathlib.Data.List.Basic

/-!
# Written whole numbers

The decimal digits of a whole number are read back as the number: they have no zero in front, and no
other kind of scalar is made of digits alone.
-/

namespace RecordQuery.Toml

theorem isDigit_of_mem {n : Nat} {c : Char} (h : c ∈ Nat.toDigits 10 n) : c.isDigit = true :=
  Nat.isDigit_of_mem_toDigits (by decide) (by decide) h

theorem notMem_toDigits {c : Char} (h : c.isDigit = false) (n : Nat) : c ∉ Nat.toDigits 10 n := by
  intro hmem
  rw [isDigit_of_mem hmem] at h
  cases h

theorem digits?_self {run : List Char} (hne : run ≠ []) (hrun : ∀ c ∈ run, c.isDigit = true) :
    digits? Char.isDigit run = some run := by
  induction run with
  | nil => exact absurd rfl hne
  | cons c run ih =>
      have hc := hrun c List.mem_cons_self
      cases run with
      | nil => simp [digits?, hc]
      | cons d run =>
          have hd := hrun d (by simp)
          rw [digits?, if_pos hc, ih (List.cons_ne_nil d run) fun e he =>
            hrun e (List.mem_cons_of_mem _ he)]
          · rfl
          · simp
          · rintro rest ⟨⟩
            cases hd

theorem head?_toDigits {n : Nat} (hn : 0 < n) : (Nat.toDigits 10 n).head? ≠ some '0' := by
  induction n using Nat.strongRecOn with
  | ind n ih =>
      rw [Nat.toDigits_eq_if (by decide)]
      split
      · next hlt =>
          have hdigit : ∀ d < 10, 0 < d → [Nat.digitChar d].head? ≠ some '0' := by decide
          exact hdigit n hlt hn
      · next hle =>
          rw [List.head?_append_of_ne_nil _ Nat.toDigits_ne_nil]
          exact ih (n / 10) (by omega) (by omega)

theorem whole?_toDigits (n : Nat) : whole? (Nat.toDigits 10 n) = some (Nat.toDigits 10 n) := by
  rw [whole?, digits?_self Nat.toDigits_ne_nil fun _ => isDigit_of_mem]
  rcases Nat.eq_zero_or_pos n with rfl | hn
  · rfl
  · simp [head?_toDigits hn]

theorem ofDigits_toDigits (n : Nat) : ofDigits 10 (Nat.toDigits 10 n) = n := by
  refine Eq.trans ?_ (Nat.ofDigitChars_ten_toDigits (n := n))
  rw [Nat.ofDigitChars_eq_foldl]
  refine List.foldl_ext _ _ _ fun m c hc => ?_
  rw [digitValue, if_pos (isDigit_of_mem hc)]
  rfl

theorem integer?_toDigits (n : Nat) : integer? (Nat.toDigits 10 n) = some (n : Int) := by
  have hnot := fun (c : Char) (hc : c.isDigit = false) => notMem_toDigits hc n
  have hwhole := whole?_toDigits n
  have hvalue := ofDigits_toDigits n
  generalize Nat.toDigits 10 n = run at hnot hwhole hvalue
  have hsign : Numeral.sign run = (false, run) := by
    unfold Numeral.sign
    split
    · exact absurd List.mem_cons_self (hnot '-' rfl)
    · exact absurd List.mem_cons_self (hnot '+' rfl)
    · rfl
  unfold integer?
  split
  · exact absurd (by simp) (hnot 'x' rfl)
  · exact absurd (by simp) (hnot 'o' rfl)
  · exact absurd (by simp) (hnot 'b' rfl)
  · simp [hsign, hwhole, hvalue]

theorem scalar?_toDigits {n : Nat} (hn : integerInRange n = true) :
    scalar? (Nat.toDigits 10 n) = some (.integer n) := by
  have htrue : isTrue (Nat.toDigits 10 n) = false :=
    decide_eq_false fun h => notMem_toDigits (c := 't') rfl n (by simp [h])
  have hfalse : isFalse (Nat.toDigits 10 n) = false :=
    decide_eq_false fun h => notMem_toDigits (c := 'f') rfl n (by simp [h])
  simp [scalar?, htrue, hfalse, integer?_toDigits, hn]

end RecordQuery.Toml
