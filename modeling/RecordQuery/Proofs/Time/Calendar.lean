import Mathlib.Algebra.Ring.Nat
import Mathlib.Data.List.GetD
import RecordQuery.Time.Instant

/-!
# Numbers of days

The date found for a number of days has that number, and dates are numbered in the order of their years,
in a year in the order of their months, and in a month in the order of their days.
-/

namespace RecordQuery.Date

/-! ## Years -/

theorem daysBeforeYear_succ (y : Int) :
    daysBeforeYear (y + 1) = daysBeforeYear y + if isLeap y then 366 else 365 := by
  simp only [daysBeforeYear, isLeap, Bool.and_eq_true, Bool.or_eq_true, beq_iff_eq, bne_iff_ne]
  split
  · omega
  · omega

/-- The year found for a day holds it. -/
theorem daysBeforeYear_yearOf (n : Int) :
    daysBeforeYear (yearOf n) ≤ n ∧ n < daysBeforeYear (yearOf n + 1) := by
  -- The mean length of a year errs by less than a year.
  have hguess : daysBeforeYear (400 * n / 146097 + 1) ≤ n ∧
      n < daysBeforeYear (400 * n / 146097 + 1 + 1 + 1) := by
    simp only [daysBeforeYear]
    omega
  simp only [yearOf]
  split
  · next h => exact ⟨h, hguess.2⟩
  · next h => exact ⟨hguess.1, by omega⟩

/-! ## Months -/

theorem sum_monthLengths (y : Int) :
    (monthLengths y).sum = if isLeap y then 366 else 365 := by
  cases h : isLeap y <;> simp [monthLengths, h]

theorem daysBeforeMonth_eq_sum (y : Int) (month : Nat) :
    daysBeforeMonth y month = ((monthLengths y).take (month - 1)).sum :=
  List.sum_eq_foldl.symm

/-- The month found for a day holds it. -/
theorem exists_monthOf (month : Nat) {lengths : List Nat} {n : Nat} (hn : n < lengths.sum) :
    ∃ i day, monthOf month lengths n = (month + i, day + 1) ∧ day < lengths.getD i 0 ∧
      (lengths.take i).sum + day = n := by
  induction lengths generalizing month n with
  | nil => simp at hn
  | cons length rest ih =>
      rw [monthOf]
      split
      · next hlength => exact ⟨0, n, rfl, hlength, by simp⟩
      · next hlength =>
          rw [List.sum_cons] at hn
          obtain ⟨i, day, hmonth, hi, hday⟩ := ih (month + 1) (n := n - length) (by omega)
          refine ⟨i + 1, day, ?_, hi, ?_⟩
          · rw [hmonth, Nat.add_right_comm, Nat.add_assoc]
          · rw [List.take_succ_cons, List.sum_cons]
            omega

/-- The date found for a number of days lies so many days after the first of its year. -/
theorem exists_ofDayNumber (n : Int) :
    ∃ y i day, ofDayNumber n = ⟨y, 1 + i, day + 1⟩ ∧ day < (monthLengths y).getD i 0 ∧
      daysBeforeYear y + (((monthLengths y).take i).sum + day : Nat) = n + epochDay := by
  obtain ⟨hstart, hend⟩ := daysBeforeYear_yearOf (n + epochDay)
  rw [daysBeforeYear_succ] at hend
  have hinside : (n + epochDay - daysBeforeYear (yearOf (n + epochDay))).toNat <
      (monthLengths (yearOf (n + epochDay))).sum := by
    rw [sum_monthLengths]
    split at hend
    · next h => rw [if_pos h]; omega
    · next h => rw [if_neg h]; omega
  obtain ⟨i, day, hmonth, hlength, hday⟩ := exists_monthOf 1 hinside
  refine ⟨yearOf (n + epochDay), i, day, ?_, hlength, ?_⟩
  · simp only [ofDayNumber, hmonth]
  · omega

/-- **Days and dates.** The date found for a number of days has that number. -/
theorem dayNumber_ofDayNumber (n : Int) : (ofDayNumber n).dayNumber = n := by
  obtain ⟨y, i, day, hdate, -, hday⟩ := exists_ofDayNumber n
  simp only [hdate, dayNumber, daysBeforeMonth_eq_sum, Nat.add_sub_cancel_left]
  omega

/-! ## Dates of the calendar -/

/-- The calendar has the date. -/
def IsValid (d : Date) : Prop := 1 ≤ d.day ∧ d.day ≤ monthLength d.year d.month

instance (d : Date) : Decidable d.IsValid := inferInstanceAs (Decidable (_ ∧ _))

variable {a b d : Date}

theorem ofFields?_eq_some {year : Int} {month day : Nat} (h : ofFields? year month day = some d) :
    d = ⟨year, month, day⟩ ∧ d.IsValid := by
  unfold ofFields? at h
  split at h
  · next hfields =>
      obtain rfl := Option.some.inj h
      simp only [Bool.and_eq_true, decide_eq_true_eq] at hfields
      exact ⟨rfl, hfields.1.2, hfields.2⟩
  · simp at h

theorem IsValid.month (h : d.IsValid) : 1 ≤ d.month ∧ d.month ≤ 12 := by
  have hpos : 0 < monthLength d.year d.month := Nat.lt_of_lt_of_le h.1 h.2
  unfold monthLength at hpos
  split at hpos
  · cases hpos
  · next hmonth =>
      have hlt : d.month - 1 < (monthLengths d.year).length := by
        by_contra hge
        rw [List.getD_eq_default _ _ (Nat.le_of_not_lt hge)] at hpos
        cases hpos
      have htwelve : (monthLengths d.year).length = 12 := rfl
      omega

theorem isValid_ofDayNumber (n : Int) : (ofDayNumber n).IsValid := by
  obtain ⟨y, i, day, hdate, hlength, -⟩ := exists_ofDayNumber n
  have hmonth : monthLength y (1 + i) = (monthLengths y).getD i 0 := by
    rw [monthLength, if_neg (by omega), Nat.add_sub_cancel_left]
  rw [hdate]
  refine ⟨Nat.le_add_left 1 day, ?_⟩
  show day + 1 ≤ monthLength y (1 + i)
  rw [hmonth]
  exact hlength

/-! ## Growth -/

theorem daysBeforeYear_mono {y z : Int} (h : y ≤ z) : daysBeforeYear y ≤ daysBeforeYear z := by
  simp only [daysBeforeYear]
  omega

theorem daysBeforeMonth_succ (y : Int) (month : Nat) :
    daysBeforeMonth y (month + 1) = daysBeforeMonth y month + monthLength y month := by
  rw [daysBeforeMonth_eq_sum, daysBeforeMonth_eq_sum]
  cases month with
  | zero => simp [monthLength]
  | succ month =>
      have hlength : monthLength y (month + 1) = ((monthLengths y)[month]?.toList).sum := by
        rw [monthLength, if_neg (Nat.succ_ne_zero month), List.getD_eq_getElem?_getD]
        cases h : (monthLengths y)[month]? <;> simp [h]
      rw [Nat.add_sub_cancel, List.take_add_one, List.sum_append, hlength, Nat.add_sub_cancel]

theorem daysBeforeMonth_le (y : Int) (month : Nat) :
    daysBeforeMonth y month ≤ (monthLengths y).sum := by
  rw [daysBeforeMonth_eq_sum]
  conv => rhs; rw [← List.take_append_drop (month - 1) (monthLengths y), List.sum_append]
  exact Nat.le_add_right _ _

theorem daysBeforeMonth_mono (y : Int) {m n : Nat} (h : m ≤ n) :
    daysBeforeMonth y m ≤ daysBeforeMonth y n := by
  induction h with
  | refl => exact Nat.le_refl _
  | step _ ih =>
      rw [daysBeforeMonth_succ]
      exact Nat.le_trans ih (Nat.le_add_right _ _)

/-- The day lies in its month. -/
theorem IsValid.dayNumber_bounds (h : d.IsValid) :
    daysBeforeYear d.year + daysBeforeMonth d.year d.month ≤ d.dayNumber + epochDay ∧
      d.dayNumber + epochDay < daysBeforeYear d.year + daysBeforeMonth d.year (d.month + 1) := by
  obtain ⟨hpos, hle⟩ := h
  rw [daysBeforeMonth_succ, dayNumber]
  omega

/-- Its month lies in its year. -/
theorem IsValid.dayNumber_lt_next_year (h : d.IsValid) :
    d.dayNumber + epochDay < daysBeforeYear (d.year + 1) := by
  have hmonth := h.dayNumber_bounds.2
  have hyear := daysBeforeMonth_le d.year (d.month + 1)
  rw [sum_monthLengths] at hyear
  rw [daysBeforeYear_succ]
  split at hyear
  · next hleap => rw [if_pos hleap]; omega
  · next hleap => rw [if_neg hleap]; omega

/-! ## The order -/

/-- The date comes before the other: in its year, its month or its day. -/
def Before (a b : Date) : Prop :=
  a.year < b.year ∨
    a.year = b.year ∧ (a.month < b.month ∨ a.month = b.month ∧ a.day < b.day)

theorem Before.dayNumber_lt (h : a.Before b) (ha : a.IsValid) (hb : b.IsValid) :
    a.dayNumber < b.dayNumber := by
  have hfirst := hb.dayNumber_bounds.1
  rcases h with hyear | ⟨hyear, hmonth | ⟨hmonth, hday⟩⟩
  · have hlast := ha.dayNumber_lt_next_year
    have hmono := daysBeforeYear_mono (show a.year + 1 ≤ b.year from hyear)
    omega
  · have hlast := ha.dayNumber_bounds.2
    have hmono := daysBeforeMonth_mono a.year (show a.month + 1 ≤ b.month from hmonth)
    rw [hyear] at hlast hmono
    omega
  · rw [dayNumber, dayNumber, hyear, hmonth]
    omega

/-- **The order of dates.** It is that of their day numbers. -/
theorem dayNumber_lt_iff (ha : a.IsValid) (hb : b.IsValid) :
    a.dayNumber < b.dayNumber ↔ a.Before b := by
  constructor
  · intro hlt
    by_contra hnot
    -- Dates that do not come before another come after it or are the same.
    have hle : b.Before a ∨ b = a := by
      obtain ⟨y, m, day⟩ := a
      obtain ⟨y', m', day'⟩ := b
      simp only [Before, Date.mk.injEq] at hnot ⊢
      omega
    rcases hle with hbefore | rfl
    · have hgt := hbefore.dayNumber_lt hb ha
      omega
    · omega
  · intro hbefore
    exact hbefore.dayNumber_lt ha hb

/-- Different dates have different day numbers. -/
theorem eq_of_dayNumber_eq (ha : a.IsValid) (hb : b.IsValid) (h : a.dayNumber = b.dayNumber) :
    a = b := by
  have hbefore : ¬ a.Before b := by
    rw [← dayNumber_lt_iff ha hb]
    omega
  have hafter : ¬ b.Before a := by
    rw [← dayNumber_lt_iff hb ha]
    omega
  obtain ⟨y, m, day⟩ := a
  obtain ⟨y', m', day'⟩ := b
  simp only [Before, Date.mk.injEq] at hbefore hafter ⊢
  omega

theorem ofDayNumber_dayNumber (hd : d.IsValid) : ofDayNumber d.dayNumber = d :=
  eq_of_dayNumber_eq (isValid_ofDayNumber _) hd (dayNumber_ofDayNumber _)

theorem year_le_of_dayNumber_le (ha : a.IsValid) (hb : b.IsValid) (h : a.dayNumber ≤ b.dayNumber) :
    a.year ≤ b.year := by
  by_contra hlt
  have hbefore : b.dayNumber < a.dayNumber :=
    Before.dayNumber_lt (.inl (Int.not_le.mp hlt)) hb ha
  omega

/-- A day lies before the first day of the next year. -/
theorem dayNumber_lt_next_year {y : Int} {month day : Nat} (ha : ofFields? y month day = some a)
    (hb : ofFields? (y + 1) 1 1 = some b) : a.dayNumber < b.dayNumber := by
  obtain ⟨rfl, hday⟩ := ofFields?_eq_some ha
  obtain ⟨rfl, hfirst⟩ := ofFields?_eq_some hb
  exact Before.dayNumber_lt (.inl (Int.lt_succ y)) hday hfirst

/-- A day lies before the first day of the next month. -/
theorem dayNumber_lt_next_month {y : Int} {month day : Nat} (ha : ofFields? y month day = some a)
    (hb : ofFields? y (month + 1) 1 = some b) : a.dayNumber < b.dayNumber := by
  obtain ⟨rfl, hday⟩ := ofFields?_eq_some ha
  obtain ⟨rfl, hfirst⟩ := ofFields?_eq_some hb
  exact Before.dayNumber_lt (.inr ⟨rfl, .inl (Nat.lt_succ_self month)⟩) hday hfirst

end RecordQuery.Date

namespace RecordQuery.Instant

/-! ## Dates of instants -/

/-- The date of an instant in UTC. -/
def date (x : Instant) : Date := Date.ofDayNumber (x.second / 86400)

theorem isValid_date (x : Instant) : x.date.IsValid := Date.isValid_ofDayNumber _

@[simp] theorem dayNumber_date (x : Instant) : x.date.dayNumber = x.second / 86400 :=
  Date.dayNumber_ofDayNumber _

end RecordQuery.Instant
