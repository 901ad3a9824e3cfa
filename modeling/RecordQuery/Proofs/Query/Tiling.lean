import RecordQuery.Proofs.Query.CalendarPeriod
import RecordQuery.Proofs.Query.Literal

/-!
# Calendar periods at the millisecond

The years, the months and the days follow each other without a gap or an overlap, a month is made of its
days and a year of its months. An end is the last millisecond before the next period starts, whichever
rule finds it: the next first of January, the first of the next month, or the day after.
-/

namespace RecordQuery

/-! ## Milliseconds -/

namespace Instant

variable {d e : Date}

theorem yearInRange_of_le {y : Int} (h : 0 ≤ y ∧ y ≤ 10000) : Date.yearInRange y = true := by
  simp only [Date.yearInRange, Bool.and_eq_true, decide_eq_true_eq]
  omega

theorem ofMillis?_midnight (hd : d.IsValid) (hyear : 0 ≤ d.year ∧ d.year ≤ 10000) :
    ofMillis? (d.dayNumber * 86400000) = some (midnight d) := by
  have hsecond : d.dayNumber * 86400000 / 1000 = d.dayNumber * 86400 := by omega
  have hnano : (d.dayNumber * 86400000 % 1000).toNat = 0 := by omega
  have hday : d.dayNumber * 86400 / 86400 = d.dayNumber := by omega
  simp [ofMillis?, hsecond, hnano, hday, Date.ofDayNumber_dayNumber hd, yearInRange_of_le hyear,
    midnight]

/-- The last millisecond before a date lies on the date `e` in front of it. -/
theorem ofMillis?_beforeMidnight (he : e.IsValid) (hyear : 0 ≤ e.year ∧ e.year ≤ 10000)
    (h : d.dayNumber = e.dayNumber + 1) :
    ofMillis? (d.dayNumber * 86400000 - 1) = some (beforeMidnight d) := by
  have hsecond : (d.dayNumber * 86400000 - 1) / 1000 = d.dayNumber * 86400 - 1 := by omega
  have hnano : ((d.dayNumber * 86400000 - 1) % 1000).toNat = 999 := by omega
  have hday : (d.dayNumber * 86400 - 1) / 86400 = e.dayNumber := by omega
  simp [ofMillis?, hsecond, hnano, hday, Date.ofDayNumber_dayNumber he, yearInRange_of_le hyear,
    beforeMidnight]

end Instant

/-! ## The next period -/

namespace Date

/-- The first day of the next month comes right behind the last day of a month. -/
theorem dayNumber_next_month (y : Int) (m : Nat) :
    (if m = 12 then (⟨y + 1, 1, 1⟩ : Date) else ⟨y, m + 1, 1⟩).dayNumber =
      (⟨y, m, monthLength y m⟩ : Date).dayNumber + 1 := by
  split
  · next htwelve =>
      have hyear := daysBeforeYear_succ y
      have hmonths : daysBeforeMonth y 12 + monthLength y 12 = if isLeap y then 366 else 365 := by
        rw [← daysBeforeMonth_succ, daysBeforeMonth_eq_sum, ← sum_monthLengths]
        rfl
      have hnone : daysBeforeMonth (y + 1) 1 = 0 := rfl
      subst htwelve
      simp only [dayNumber, hyear, hnone]
      split at hmonths
      · next hleap => rw [if_pos hleap]; omega
      · next hleap => rw [if_neg hleap]; omega
  · simp only [dayNumber, daysBeforeMonth_succ]
    omega

end Date

namespace CalendarPeriod

/-- The next year, month or day. -/
def successor : CalendarPeriod → CalendarPeriod
  | year y => year (y + 1)
  | month y m => if m = 12 then month (y + 1) 1 else month y (m + 1)
  | day y m d =>
    if d < Date.monthLength y m then day y m (d + 1)
    else if m = 12 then day (y + 1) 1 1
    else day y (m + 1) 1

variable {P : CalendarPeriod}

/-- The day after the last one of a month is the first one of the next month. -/
theorem dayAfter_last {y m : Nat} (h : (month y m).IsValid) :
    Literal.dayAfter ⟨y, m, Date.monthLength y m⟩ = (month y m).next := by
  refine Date.eq_of_dayNumber_eq (Literal.isValid_dayAfter _) h.next ?_
  rw [Literal.dayNumber_dayAfter]
  exact (Date.dayNumber_next_month y m).symm

theorem first_successor (h : P.IsValid) : P.successor.first = P.next := by
  cases P with
  | year y => simp [successor, first, next]
  | month y m =>
      simp only [successor, next]
      split <;> simp [first]
  | day y m d =>
      have hmonth : (month y m).IsValid := ⟨h.1, h.2.month⟩
      have hlength : d ≤ Date.monthLength y m := h.2.2
      simp only [successor, next]
      split
      · next hinside =>
          have hnext : (⟨y, m, d + 1⟩ : Date).IsValid := ⟨Nat.le_add_left 1 d, hinside⟩
          refine Date.eq_of_dayNumber_eq hnext (Literal.isValid_dayAfter _) ?_
          rw [Literal.dayNumber_dayAfter]
          simp only [first, Date.dayNumber]
          omega
      · next hlast =>
          obtain rfl : d = Date.monthLength y m := by omega
          rw [dayAfter_last hmonth]
          simp only [next]
          split <;> simp [first]

theorem first_lt_next (h : P.IsValid) : P.first.dayNumber < P.next.dayNumber :=
  ((side_eq_eq h h.first).mp P.side_first).2

theorem IsValid.year_first (h : P.IsValid) : 0 ≤ P.first.year ∧ P.first.year ≤ 9999 := by
  have hyear : ∀ y : Nat, y ≤ 9999 → 0 ≤ (y : Int) ∧ (y : Int) ≤ 9999 := by omega
  cases P with
  | year y => exact hyear y h
  | month y m => exact hyear y h.1
  | day y m d => exact hyear y h.1

/-- A period ends one millisecond before the next one starts. -/
theorem ofMillis?_last (h : P.IsValid) (hnext : P.successor.IsValid) :
    ∃ ms, Instant.ofMillis? ms = some P.period.last ∧
      Instant.ofMillis? (ms + 1) = some P.successor.period.first := by
  -- The date in front of the next period lies in this one, so its year has four digits.
  have hlast := Date.isValid_ofDayNumber (P.next.dayNumber - 1)
  have hnumber := Date.dayNumber_ofDayNumber (P.next.dayNumber - 1)
  have hless := first_lt_next h
  have hlow := Date.year_le_of_dayNumber_le h.first hlast (by omega)
  have hhigh := Date.year_le_of_dayNumber_le hlast h.next (by omega)
  have hyear := h.year_first
  have hyearNext := hnext.year_first
  rw [first_successor h] at hyearNext
  have hfirst : P.successor.period.first = Instant.midnight P.next := by
    show Instant.midnight P.successor.first = _
    rw [first_successor h]
  refine ⟨P.next.dayNumber * 86400000 - 1, ?_, ?_⟩
  · exact Instant.ofMillis?_beforeMidnight hlast (by omega) (by omega)
  · rw [hfirst, Int.sub_add_cancel]
    exact Instant.ofMillis?_midnight h.next (by omega)

end CalendarPeriod

/-! ## Periods in periods -/

namespace Period

/-- The period lies in the other one. -/
def Within (p q : Period) : Prop := q.first.place ≤ p.first.place ∧ p.last.place ≤ q.last.place

/-- One of the periods ends before the other one starts. -/
def Apart (p q : Period) : Prop := p.last.place < q.first.place ∨ q.last.place < p.first.place

end Period

namespace CalendarPeriod

variable {P : CalendarPeriod}

/-- A day lies in a period or apart from it, as its date does. -/
theorem day_within_or_apart {y m d : Nat} (hday : (day y m d).IsValid) (hP : P.IsValid) :
    if P.side ⟨y, m, d⟩ = .eq then (day y m d).period.Within P.period
    else (day y m d).period.Apart P.period := by
  have hbefore := side_eq_lt hP hday.2
  have hafter := side_eq_gt hP hday.2
  have hinside := side_eq_eq hP hday.2
  have hnext : (day y m d).next.dayNumber = (day y m d).first.dayNumber + 1 :=
    Literal.dayNumber_dayAfter _
  have hfirst : (day y m d).first = ⟨y, m, d⟩ := rfl
  simp only [Period.Within, Period.Apart, period, Literal.span, Instant.midnight,
    Instant.beforeMidnight, Instant.place, hnext, hfirst]
  cases hside : P.side ⟨y, m, d⟩ with
  | lt =>
      have hless := hbefore.mp hside
      rw [if_neg (by simp)]
      omega
  | eq =>
      have hbounds := hinside.mp hside
      rw [if_pos rfl]
      omega
  | gt =>
      have hmore := hafter.mp hside
      rw [if_neg (by simp)]
      omega

/-- Years, months and days as spans of time that nest without a gap or an overlap. -/
structure Tiles (period : CalendarPeriod → Period) : Prop where
  ordered : ∀ P, P.IsValid → (period P).first.place ≤ (period P).last.place
  /-- The next period of the kind starts one millisecond after the end. -/
  meets : ∀ P, P.IsValid → P.successor.IsValid →
    ∃ ms, Instant.ofMillis? ms = some (period P).last ∧
      Instant.ofMillis? (ms + 1) = some (period P.successor).first
  /-- A month runs from its first day to its last one. -/
  days : ∀ y m, (month y m).IsValid →
    ∃ last, 1 ≤ last ∧ (∀ d, (day y m d).IsValid ↔ 1 ≤ d ∧ d ≤ last) ∧
      (period (month y m)).first = (period (day y m 1)).first ∧
      (period (month y m)).last = (period (day y m last)).last
  /-- A year runs from its January to its December. -/
  months : ∀ y, (year y).IsValid →
    (period (year y)).first = (period (month y 1)).first ∧
      (period (year y)).last = (period (month y 12)).last
  /-- A day lies in its own month and apart from all others. -/
  inMonth : ∀ y m d, (day y m d).IsValid →
    (month y m).IsValid ∧ ∀ y' m', (month y' m').IsValid →
      if y' = y ∧ m' = m then (period (day y m d)).Within (period (month y' m'))
      else (period (day y m d)).Apart (period (month y' m'))
  /-- A day lies in its own year and apart from all others. -/
  inYear : ∀ y m d, (day y m d).IsValid →
    (year y).IsValid ∧ ∀ y', (year y').IsValid →
      if y' = y then (period (day y m d)).Within (period (year y'))
      else (period (day y m d)).Apart (period (year y'))

/-- A month lies where its year and its number are those of the date. -/
theorem side_month {y m y' m' d : Nat} :
    (month y' m').side ⟨y, m, d⟩ = .eq ↔ y' = y ∧ m' = m := by
  simp only [side, Ordering.then_eq_eq, compare_eq_iff_eq]
  omega

theorem side_year {y m y' d : Nat} : (year y').side ⟨y, m, d⟩ = .eq ↔ y' = y := by
  simp only [side, compare_eq_iff_eq]
  omega

theorem tiles_period : Tiles period where
  ordered P h := Literal.place_span_le (first_lt_next h)
  meets P h hnext := ofMillis?_last h hnext
  days y m h := by
    have hfirst : 1 ≤ Date.monthLength y m := h.first.2
    refine ⟨Date.monthLength y m, hfirst, fun d => ?_, rfl, ?_⟩
    · exact and_iff_right h.1
    · show Instant.beforeMidnight (month y m).next = Instant.beforeMidnight (Literal.dayAfter _)
      rw [dayAfter_last h]
  months y h := ⟨rfl, rfl⟩
  inMonth y m d h := by
    refine ⟨⟨h.1, h.2.month⟩, fun y' m' hmonth => ?_⟩
    have hside := day_within_or_apart h hmonth
    simpa only [side_month] using hside
  inYear y m d h := by
    refine ⟨h.1, fun y' hyear => ?_⟩
    have hside := day_within_or_apart h hyear
    simpa only [side_year] using hside

/-- **Calendar periods tile.** The literals of the years, months and days of the calendar stand for periods
that do not end before they start, each of which ends one millisecond before the next of its kind starts. A
month is made of its days and a year of its months, and a day lies in one month and in one year only. -/
theorem classify_tiles :
    ∃ period : CalendarPeriod → Period,
      (∀ P, P.IsValid → Literal.classify P.text.toList = .valid (.period (period P))) ∧ Tiles period :=
  ⟨period, fun _ h => classify_text h, tiles_period⟩

/-- A leap February and the March that follows it. -/
theorem classify_tiles_leap_february :
    ∃ february march : Period,
      Literal.classify "2024-02".toList = .valid (.period february) ∧
      Literal.classify "2024-03".toList = .valid (.period march) ∧
      ∃ ms, Instant.ofMillis? ms = some february.last ∧ Instant.ofMillis? (ms + 1) = some march.first := by
  obtain ⟨period, hclassify, htiles⟩ := classify_tiles
  have hfebruary : (month 2024 2).IsValid := ⟨by decide, by decide, by decide⟩
  have hmarch : (month 2024 3).IsValid := ⟨by decide, by decide, by decide⟩
  exact ⟨period (month 2024 2), period (month 2024 3), hclassify _ hfebruary, hclassify _ hmarch,
    htiles.meets _ hfebruary hmarch⟩

end CalendarPeriod

end RecordQuery
