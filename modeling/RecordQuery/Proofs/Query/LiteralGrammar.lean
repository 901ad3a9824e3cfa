import RecordQuery.Proofs.Query.WrittenDate
import RecordQuery.Proofs.Query.WrittenNumeral

/-!
# The grammar of literals

Every text with the shape of a date is that of a written date, so what a text is told to be as a literal
is known from how it can be written: the main statement, `classify_grammar`, says it for all texts.
-/

namespace RecordQuery.Literal

variable {text rest : List Char}

/-! ## Dates -/

theorem eq_padded_of_digits? {count n : Nat} (hcount : 0 < count)
    (h : digits? count text = some (n, rest)) :
    n < 10 ^ count ∧ text = Instant.padded count n ++ rest := by
  unfold digits? at h
  dsimp only at h
  split at h
  · next hrun =>
      obtain ⟨rfl, rfl⟩ : Numeral.natOfDigits (text.take count) = n ∧ text.drop count = rest := by
        simpa using h
      simp only [Bool.and_eq_true, decide_eq_true_eq, List.all_eq_true] at hrun
      obtain ⟨hlength, hdigits⟩ := hrun
      have hne : text.take count ≠ [] := by
        rintro hnil
        rw [hnil] at hlength
        exact absurd hlength (Nat.ne_of_lt hcount)
      have hpadded := Instant.padded_natOfDigits hne hdigits
      have hlt := Numeral.natOfDigits_lt hdigits
      rw [hlength] at hpadded hlt
      exact ⟨hlt, by rw [hpadded, List.take_append_drop]⟩
  · cases h

theorem exists_two_of_digits? {n : Nat} (h : digits? 2 text = some (n, rest)) :
    ∃ field : Fin 100, text = Instant.padded 2 field ++ rest := by
  obtain ⟨hn, rfl⟩ := eq_padded_of_digits? (by decide) h
  exact ⟨⟨n, hn⟩, rfl⟩

/-- The minutes of an offset end it. -/
theorem exists_minutes {west : Bool} {hours : Nat} {o : Offset}
    (h : (digits? 2 text).bind (fun found =>
      if found.2.isEmpty then some (⟨west, hours, found.1⟩ : Offset) else none) = some o) :
    ∃ minutes : Fin 100, text = Instant.padded 2 minutes := by
  obtain ⟨⟨n, after⟩, hminutes, hend⟩ := Option.bind_eq_some_iff.mp h
  obtain ⟨minutes, rfl⟩ := exists_two_of_digits? hminutes
  dsimp only at hend
  split at hend
  · next hempty => exact ⟨minutes, by rw [List.isEmpty_iff.mp hempty, List.append_nil]⟩
  · cases hend

theorem exists_zone {o : Offset} (h : offset? text = some o) : ∃ z : Zone, z.text = text := by
  unfold offset? at h
  split at h
  · exact ⟨.absent, rfl⟩
  · exact ⟨.letter true, rfl⟩
  · exact ⟨.letter false, rfl⟩
  · next c rest _ _ =>
      split at h
      · next hsign =>
          obtain ⟨west, rfl⟩ : ∃ west, Zone.sign west = c := by
            simp only [Bool.or_eq_true, decide_eq_true_eq] at hsign
            rcases hsign with rfl | rfl
            · exact ⟨false, rfl⟩
            · exact ⟨true, rfl⟩
          obtain ⟨⟨n, after⟩, hhours, hafter⟩ := Option.bind_eq_some_iff.mp h
          clear h
          obtain ⟨hours, rfl⟩ := exists_two_of_digits? hhours
          dsimp only at hafter
          split at hafter
          · exact ⟨.hours west hours, by simp [Zone.text]⟩
          · obtain ⟨minutes, rfl⟩ := exists_minutes hafter
            exact ⟨.parted west hours minutes, rfl⟩
          · obtain ⟨minutes, rfl⟩ := exists_minutes hafter
            exact ⟨.joined west hours minutes, rfl⟩
      · cases h

/-- The fraction is absent or one of up to nine digits. -/
theorem exists_fraction {nano : Nat} (h : fraction? text = some (nano, rest)) :
    text = rest ∨ ∃ f : Fraction, text = f.text ++ rest := by
  unfold fraction? at h
  split at h
  · next run =>
      dsimp only at h
      split at h
      · next hwidth =>
          obtain ⟨-, rfl⟩ : _ ∧ run.dropWhile Char.isDigit = rest := by simpa using h
          rw [Bool.and_eq_true, decide_eq_true_eq, decide_eq_true_eq] at hwidth
          have hdigits : ∀ c ∈ run.takeWhile Char.isDigit, c.isDigit = true :=
            List.all_eq_true.mp List.all_takeWhile
          have hne : run.takeWhile Char.isDigit ≠ [] := List.length_pos_iff.mp hwidth.1
          refine .inr ⟨⟨_, _, hwidth.1, hwidth.2, Numeral.natOfDigits_lt hdigits⟩, ?_⟩
          rw [Fraction.text, Instant.padded_natOfDigits hne hdigits, List.cons_append,
            List.takeWhile_append_dropWhile]
      · cases h
  · obtain ⟨-, rfl⟩ : _ ∧ text = rest := by simpa using h
    exact .inl rfl

theorem exists_seconds {second nano : Nat} (h : seconds? text = some (second, nano, rest)) :
    ∃ s : Seconds, text = s.text ++ rest := by
  unfold seconds? at h
  split at h
  · obtain ⟨⟨n, after⟩, hsecond, hafter⟩ := Option.bind_eq_some_iff.mp h
    obtain ⟨⟨n', after'⟩, hfraction, hrest⟩ := Option.bind_eq_some_iff.mp hafter
    obtain ⟨-, -, rfl⟩ : n = second ∧ n' = nano ∧ after' = rest := by simpa using hrest
    obtain ⟨second, rfl⟩ := exists_two_of_digits? hsecond
    rcases exists_fraction hfraction with rfl | ⟨f, rfl⟩
    · exact ⟨.whole second, rfl⟩
    · exact ⟨.parts second f, by simp [Seconds.text]⟩
  · obtain ⟨-, -, rfl⟩ : _ ∧ _ ∧ text = rest := by simpa using h
    exact ⟨.absent, rfl⟩

theorem exists_clock {found : Clock × Offset} (h : clock? text = some found) :
    ∃ (hour minute : Fin 100) (s : Seconds) (z : Zone),
      text = Instant.padded 2 hour ++ ':' :: (Instant.padded 2 minute ++ (s.text ++ z.text)) := by
  obtain ⟨⟨n, rest⟩, hhour, hrest⟩ := Option.bind_eq_some_iff.mp h
  obtain ⟨hour, rfl⟩ := exists_two_of_digits? hhour
  dsimp only at hrest
  split at hrest
  · obtain ⟨⟨n, after⟩, hminute, hafter⟩ := Option.bind_eq_some_iff.mp hrest
    obtain ⟨⟨second, nano, behind⟩, hseconds, hbehind⟩ := Option.bind_eq_some_iff.mp hafter
    obtain ⟨o, hzone, -⟩ := Option.bind_eq_some_iff.mp hbehind
    obtain ⟨minute, rfl⟩ := exists_two_of_digits? hminute
    obtain ⟨s, rfl⟩ := exists_seconds hseconds
    obtain ⟨z, rfl⟩ := exists_zone hzone
    exact ⟨hour, minute, s, z, rfl⟩
  · cases hrest

/-- **Shapes are written.** Text with the shape of a date is that of a written date. -/
theorem exists_writtenDate {shape : Shape} (h : shape? text = some shape) :
    ∃ d : WrittenDate, d.text = text := by
  obtain ⟨⟨y, rest⟩, hyear, hrest⟩ := Option.bind_eq_some_iff.mp h
  obtain ⟨hy, rfl⟩ := eq_padded_of_digits? (by decide) hyear
  dsimp only at hrest
  split at hrest
  · exact ⟨.coarse (.year y) hy, by simp [WrittenDate.text, CalendarPeriod.text]⟩
  · obtain ⟨⟨n, after⟩, hmonth, hafter⟩ := Option.bind_eq_some_iff.mp hrest
    obtain ⟨month, rfl⟩ := exists_two_of_digits? hmonth
    dsimp only at hafter
    split at hafter
    · exact ⟨.coarse (.month y month) ⟨hy, month.isLt⟩,
        by simp [WrittenDate.text, CalendarPeriod.text]⟩
    · obtain ⟨⟨n, behind⟩, hday, hbehind⟩ := Option.bind_eq_some_iff.mp hafter
      obtain ⟨day, rfl⟩ := exists_two_of_digits? hday
      dsimp only at hbehind
      split at hbehind
      · exact ⟨.coarse (.day y month day) ⟨hy, month.isLt, day.isLt⟩,
          by simp [WrittenDate.text, CalendarPeriod.text]⟩
      · next c time =>
          split at hbehind
          · next hletter =>
              obtain ⟨found, hclock, -⟩ := Option.bind_eq_some_iff.mp hbehind
              obtain ⟨hour, minute, s, z, rfl⟩ := exists_clock hclock
              obtain ⟨capital, rfl⟩ : ∃ capital : Bool, (if capital then 'T' else 't') = c := by
                simp only [Bool.or_eq_true, decide_eq_true_eq] at hletter
                rcases hletter with rfl | rfl
                · exact ⟨true, rfl⟩
                · exact ⟨false, rfl⟩
              exact ⟨.timed ⟨⟨y, hy⟩, month, day, capital, hour, minute, s, z⟩, rfl⟩
          · cases hbehind
    · cases hafter
  · cases hrest

/-! ## Literals -/

theorem shape?_of_unwritten (h : ∀ d : WrittenDate, d.text ≠ text) : shape? text = none := by
  cases hshape : shape? text with
  | none => rfl
  | some shape =>
      obtain ⟨d, hd⟩ := exists_writtenDate hshape
      exact absurd hd (h d)

/-- A numeral that is no date is told by its value. -/
theorem classify_numeral (n : WrittenNumeral) (h : ∀ d : WrittenDate, d.text ≠ n.text) :
    classify n.text = if n.value.isFinite then .valid (.number n.value) else .malformed := by
  rw [classify, shape?_of_unwritten h]
  simp only [n.isNumeral_text, n.read?_text, if_true]

theorem classify_unwritten (hdate : ∀ d : WrittenDate, d.text ≠ text)
    (hnumeral : ∀ n : WrittenNumeral, n.text ≠ text) : classify text = .neither := by
  have hnot : isNumeral text = false := by
    rw [Bool.eq_false_iff]
    intro h
    obtain ⟨n, hn⟩ := WrittenNumeral.exists_of_isNumeral h
    exact hnumeral n hn
  rw [classify, shape?_of_unwritten hdate]
  simp [hnot]

/-- What a text is told to be, by how it can be written. -/
theorem classify_cases (text : List Char) :
    (∃ d : WrittenDate, d.text = text ∧
      (d.IsReal ∧ classify text = .valid (.period d.period) ∨
        ¬ d.IsReal ∧ classify text = .malformed)) ∨
    (∀ d : WrittenDate, d.text ≠ text) ∧
      ((∃ n : WrittenNumeral, n.text = text ∧
        (n.value.isFinite = true ∧ classify text = .valid (.number n.value) ∨
          n.value.isFinite = false ∧ classify text = .malformed)) ∨
      (∀ n : WrittenNumeral, n.text ≠ text) ∧ classify text = .neither) := by
  by_cases hdate : ∃ d : WrittenDate, d.text = text
  · obtain ⟨d, rfl⟩ := hdate
    refine .inl ⟨d, rfl, ?_⟩
    by_cases hreal : d.IsReal
    · exact .inl ⟨hreal, WrittenDate.classify_text_of_isReal hreal⟩
    · exact .inr ⟨hreal, WrittenDate.classify_text_of_not hreal⟩
  · rw [not_exists] at hdate
    refine .inr ⟨hdate, ?_⟩
    by_cases hnumeral : ∃ n : WrittenNumeral, n.text = text
    · obtain ⟨n, rfl⟩ := hnumeral
      refine .inl ⟨n, rfl, ?_⟩
      rw [classify_numeral n hdate]
      cases hfinite : n.value.isFinite
      · exact .inr ⟨rfl, rfl⟩
      · exact .inl ⟨rfl, rfl⟩
    · rw [not_exists] at hnumeral
      exact .inr ⟨hnumeral, classify_unwritten hdate hnumeral⟩

/-- **The grammar of literals.** Text is a period if it is a date as one is written and the calendar and
the clock have it, and a number if it is no date and a numeral as one is written, of a finite value. It is
malformed if one of the two is written and only the last of this fails, and else no literal. A time of day
less its offset is both ends of its period, and a numeral is finite below one bound. -/
theorem classify_grammar (text : List Char) :
    (∀ p, classify text = .valid (.period p) ↔
      ∃ d : WrittenDate, d.text = text ∧ d.IsReal ∧ d.period = p) ∧
    (∀ x, classify text = .valid (.number x) ↔
      (∀ d : WrittenDate, d.text ≠ text) ∧
        ∃ n : WrittenNumeral, n.text = text ∧ n.value.isFinite = true ∧ n.value = x) ∧
    (classify text = .malformed ↔
      (∃ d : WrittenDate, d.text = text ∧ ¬ d.IsReal) ∨
        (∀ d : WrittenDate, d.text ≠ text) ∧
          ∃ n : WrittenNumeral, n.text = text ∧ n.value.isFinite = false) ∧
    (classify text = .neither ↔
      (∀ d : WrittenDate, d.text ≠ text) ∧ ∀ n : WrittenNumeral, n.text ≠ text) ∧
    (∀ t : Timestamp, t.text = text → t.IsReal →
      classify text = .valid (.period ⟨t.instant, t.instant, true⟩)) ∧
    ∀ n : WrittenNumeral, n.text = text →
      (n.value.isFinite = true ↔ n.coefficient < 10 ^ n.places * Magnitude.overflow) := by
  have hdate : ∀ d : WrittenDate, d.text = text →
      (d.IsReal → classify text = .valid (.period d.period)) ∧
        (¬ d.IsReal → classify text = .malformed) := by
    rintro d rfl
    exact ⟨WrittenDate.classify_text_of_isReal, WrittenDate.classify_text_of_not⟩
  have hnumeral : (∀ d : WrittenDate, d.text ≠ text) → ∀ n : WrittenNumeral, n.text = text →
      (n.value.isFinite = true → classify text = .valid (.number n.value)) ∧
        (n.value.isFinite = false → classify text = .malformed) := by
    rintro hno n rfl
    rw [classify_numeral n hno]
    exact ⟨fun h => by rw [if_pos h], fun h => by rw [h]; rfl⟩
  have hcases := classify_cases text
  refine ⟨fun p => ⟨fun h => ?_, ?_⟩, fun x => ⟨fun h => ?_, ?_⟩, ⟨fun h => ?_, ?_⟩,
    ⟨fun h => ?_, fun h => classify_unwritten h.1 h.2⟩, fun t ht => (hdate (.timed t) ht).1,
    fun n _ => n.isFinite_value⟩
  · simpa [h, @eq_comm _ p] using hcases
  · rintro ⟨d, hd, hreal, rfl⟩
    exact (hdate d hd).1 hreal
  · simpa [h, @eq_comm _ x] using hcases
  · rintro ⟨hno, n, hn, hfinite, rfl⟩
    exact (hnumeral hno n hn).1 hfinite
  · simpa [h] using hcases
  · rintro (⟨d, hd, hreal⟩ | ⟨hno, n, hn, hfinite⟩)
    · exact (hdate d hd).2 hreal
    · exact (hnumeral hno n hn).2 hfinite
  · simpa [h] using hcases

/-- The last half-second of a leap day, behind UTC, with a small letter and without a colon. -/
theorem classify_grammar_timestamp :
    let text := "2024-02-29t23:59:59.5-0130".toList
    let t : Timestamp :=
      { year := 2024, month := 2, day := 29, capital := false, hour := 23, minute := 59
        seconds := .parts 59 { width := 1, digits := 5 }, zone := .joined true 1 30 }
    let x : Instant := { second := 1709256599, nano := 500000000 }
    t.text = text ∧ t.IsReal ∧ t.instant = x ∧ classify text = .valid (.period ⟨x, x, true⟩) := by
  intro text t x
  have htext : t.text = text := by decide +kernel
  have hreal : t.IsReal := ⟨by decide, by decide, by decide, by decide, by decide⟩
  have hinstant : t.instant = x := by decide +kernel
  obtain ⟨-, -, -, -, htime, -⟩ := classify_grammar text
  have hperiod := htime t htext hreal
  rw [hinstant] at hperiod
  exact ⟨htext, hreal, hinstant, hperiod⟩

end RecordQuery.Literal
