import Mathlib.Tactic.IntervalCases
import RecordQuery.Proofs.Time.Calendar
import RecordQuery.Proofs.Time.Padded
import RecordQuery.Query.Literal

/-!
# Years, months and days

The periods that a query can name by a date without a time: how they are written, which dates lie in
them, and the literal that their text is.
-/

namespace RecordQuery

/-! ## Digits -/

/-- Padded digits are read as the number. -/
theorem Literal.digits?_padded {width n : Nat} (hwidth : 0 < width) (hn : n < 10 ^ width)
    (rest : List Char) : digits? width (Instant.padded width n ++ rest) = some (n, rest) := by
  have hlength := Instant.length_padded hwidth hn
  have hall : (Instant.padded width n).all Char.isDigit = true :=
    List.all_eq_true.mpr fun c hc => Instant.isDigit_of_mem_padded hc
  have htake : (Instant.padded width n ++ rest).take width = Instant.padded width n :=
    List.take_left' hlength
  have hdrop : (Instant.padded width n ++ rest).drop width = rest := List.drop_left' hlength
  simp only [digits?, htake, hdrop, hlength, hall, decide_true, Bool.and_self, if_true,
    Instant.natOfDigits_padded]

/-! ## Dates of the calendar -/

namespace Date

theorem isValid_first (y : Int) {month : Nat} (hpos : 1 ≤ month) (hle : month ≤ 12) :
    (⟨y, month, 1⟩ : Date).IsValid := by
  refine ⟨Nat.le_refl 1, ?_⟩
  show 1 ≤ monthLength y month
  cases hleap : isLeap y <;> interval_cases month <;> simp [monthLength, monthLengths, hleap]

theorem IsValid.day_le {d : Date} (h : d.IsValid) : d.day ≤ 31 := by
  obtain ⟨y, month, day⟩ := d
  obtain ⟨hpos, hle⟩ := h.month
  refine Nat.le_trans h.2 ?_
  show monthLength y month ≤ 31
  dsimp only at hpos hle
  cases hleap : isLeap y <;> interval_cases month <;> simp [monthLength, monthLengths, hleap]

theorem ofFields?_of_isValid {y : Int} {m d : Nat} (h : (⟨y, m, d⟩ : Date).IsValid)
    (hyear : 0 ≤ y ∧ y ≤ 10000) : ofFields? y m d = some ⟨y, m, d⟩ := by
  obtain ⟨hpos, hle⟩ : 1 ≤ d ∧ d ≤ monthLength y m := h
  have hrange : yearInRange y = true := by
    simp only [yearInRange, Bool.and_eq_true, decide_eq_true_eq]
    omega
  simp [ofFields?, hrange, hpos, hle]

end Date

namespace Literal

theorem isValid_dayAfter (d : Date) : (dayAfter d).IsValid := Date.isValid_ofDayNumber _

@[simp] theorem dayNumber_dayAfter (d : Date) : (dayAfter d).dayNumber = d.dayNumber + 1 :=
  Date.dayNumber_ofDayNumber _

end Literal

/-- A year, a month or a day of the calendar. -/
inductive CalendarPeriod where
  | year (year : Nat)
  | month (year month : Nat)
  | day (year month day : Nat)
  deriving DecidableEq, Repr

namespace CalendarPeriod

/-- The period as a query writes it. -/
def text : CalendarPeriod → String
  | year y => String.ofList (Instant.padded 4 y)
  | month y m => String.ofList (Instant.padded 4 y ++ '-' :: Instant.padded 2 m)
  | day y m d =>
    String.ofList (Instant.padded 4 y ++ '-' :: (Instant.padded 2 m ++ '-' :: Instant.padded 2 d))

/-- The calendar has the period, and its year has four digits. -/
def IsValid : CalendarPeriod → Prop
  | year y => y ≤ 9999
  | month y m => y ≤ 9999 ∧ 1 ≤ m ∧ m ≤ 12
  | day y m d => y ≤ 9999 ∧ (⟨y, m, d⟩ : Date).IsValid

/-- The fields have no more digits than they are written with. -/
def Fits : CalendarPeriod → Prop
  | year y => y < 10000
  | month y m => y < 10000 ∧ m < 100
  | day y m d => y < 10000 ∧ m < 100 ∧ d < 100

/-- Where a date lies: before the period, in it or after it. -/
def side (d : Date) : CalendarPeriod → Ordering
  | year y => compare d.year y
  | month y m => (compare d.year y).then (compare d.month m)
  | day y m n => (compare d.year y).then ((compare d.month m).then (compare d.day n))

/-- The first date of the period. -/
def first : CalendarPeriod → Date
  | year y => ⟨y, 1, 1⟩
  | month y m => ⟨y, m, 1⟩
  | day y m d => ⟨y, m, d⟩

/-- The first date after the period. -/
def next : CalendarPeriod → Date
  | year y => ⟨y + 1, 1, 1⟩
  | month y m => if m = 12 then ⟨y + 1, 1, 1⟩ else ⟨y, m + 1, 1⟩
  | day y m d => Literal.dayAfter ⟨y, m, d⟩

/-- The period in instants, from the start of its first date to the last millisecond before the next. -/
def period (P : CalendarPeriod) : Period := Literal.span P.first P.next

variable {P : CalendarPeriod} {d : Date}

theorem IsValid.fits (h : P.IsValid) : P.Fits := by
  cases P with
  | year y => exact Nat.lt_succ_of_le h
  | month y m => exact ⟨Nat.lt_succ_of_le h.1, Nat.lt_of_le_of_lt h.2.2 (by decide)⟩
  | day y m d =>
      exact ⟨Nat.lt_succ_of_le h.1, Nat.lt_of_le_of_lt h.2.month.2 (by decide),
        Nat.lt_of_le_of_lt h.2.day_le (by decide)⟩

theorem IsValid.first (h : P.IsValid) : P.first.IsValid := by
  cases P with
  | year y => exact Date.isValid_first y (Nat.le_refl 1) (by decide)
  | month y m => exact Date.isValid_first y h.2.1 h.2.2
  | day y m d => exact h.2

theorem IsValid.next (h : P.IsValid) : P.next.IsValid := by
  cases P with
  | year y => exact Date.isValid_first _ (Nat.le_refl 1) (by decide)
  | month y m =>
      show (if m = 12 then (⟨y + 1, 1, 1⟩ : Date) else ⟨y, m + 1, 1⟩).IsValid
      split
      · exact Date.isValid_first _ (Nat.le_refl 1) (by decide)
      · have hle := h.2.2
        exact Date.isValid_first _ (by omega) (by omega)
  | day y m d => exact Literal.isValid_dayAfter _

/-! ## Dates before, in and after -/

/-- The dates before the period are those before its first. -/
theorem side_eq_lt (hP : P.IsValid) (hd : d.IsValid) :
    P.side d = .lt ↔ d.dayNumber < P.first.dayNumber := by
  rw [Date.dayNumber_lt_iff hd hP.first]
  have hmonth := hd.month
  have hday := hd.1
  cases P with
  | year y =>
      simp only [side, CalendarPeriod.first, Date.Before, compare_lt_iff_lt]
      omega
  | month y m =>
      simp only [side, CalendarPeriod.first, Date.Before, Ordering.then_eq_lt, compare_lt_iff_lt,
        compare_eq_iff_eq]
      omega
  | day y m n =>
      simp only [side, CalendarPeriod.first, Date.Before, Ordering.then_eq_lt, compare_lt_iff_lt,
        compare_eq_iff_eq]

/-- The dates after the period are those from the next on. -/
theorem side_eq_gt (hP : P.IsValid) (hd : d.IsValid) :
    P.side d = .gt ↔ P.next.dayNumber ≤ d.dayNumber := by
  have hmonth := hd.month
  have hday := hd.1
  cases P with
  | year y =>
      rw [← Int.not_lt, Date.dayNumber_lt_iff hd hP.next]
      simp only [side, CalendarPeriod.next, Date.Before, compare_gt_iff_gt]
      omega
  | month y m =>
      rw [← Int.not_lt, Date.dayNumber_lt_iff hd hP.next]
      simp only [side, CalendarPeriod.next, Ordering.then_eq_gt, compare_gt_iff_gt, compare_eq_iff_eq]
      split
      · simp only [Date.Before]
        omega
      · simp only [Date.Before]
        omega
  | day y m n =>
      have hfirst := Date.dayNumber_lt_iff hP.first hd
      rw [CalendarPeriod.first] at hfirst
      rw [CalendarPeriod.next, Literal.dayNumber_dayAfter, Int.add_one_le_iff, hfirst]
      simp only [side, Date.Before, Ordering.then_eq_gt, compare_gt_iff_gt, compare_eq_iff_eq]
      omega

theorem side_first (P : CalendarPeriod) : P.side P.first = .eq := by
  cases P <;> simp [side, first]

theorem side_eq_eq (hP : P.IsValid) (hd : d.IsValid) :
    P.side d = .eq ↔ P.first.dayNumber ≤ d.dayNumber ∧ d.dayNumber < P.next.dayNumber := by
  rw [← Int.not_lt, ← side_eq_lt hP hd, ← Int.not_le, ← side_eq_gt hP hd]
  cases P.side d <;> simp

/-! ## The literal -/

/-- The shape of the text. -/
def shape : CalendarPeriod → Literal.Shape
  | year y => .year y
  | month y m => .month y m
  | day y m d => .day y m d

theorem shape?_text (h : P.Fits) : Literal.shape? P.text.toList = some P.shape := by
  have hyear : ∀ y < 10000, ∀ rest,
      Literal.digits? 4 (Instant.padded 4 y ++ rest) = some (y, rest) :=
    fun y hy rest => Literal.digits?_padded (by decide) hy rest
  have htwo : ∀ n < 100, ∀ rest, Literal.digits? 2 (Instant.padded 2 n ++ rest) = some (n, rest) :=
    fun n hn rest => Literal.digits?_padded (by decide) hn rest
  cases P with
  | year y =>
      have hy := hyear y h []
      rw [List.append_nil] at hy
      simp [text, Literal.shape?, hy, shape]
  | month y m =>
      have hmonth := htwo m h.2 []
      rw [List.append_nil] at hmonth
      simp [text, Literal.shape?, hyear y h.1, hmonth, shape]
  | day y m n =>
      have hday := htwo n h.2.2 []
      rw [List.append_nil] at hday
      simp [text, Literal.shape?, hyear y h.1, htwo m h.2.1, hday, shape]

theorem period?_shape (h : P.IsValid) : P.shape.period? = some (Literal.span P.first P.next) := by
  have hvalid := h.first
  cases P with
  | year y =>
      have hy : y ≤ 9999 := h
      have hfirst := Date.ofFields?_of_isValid hvalid (by omega)
      have hnext := Date.ofFields?_of_isValid h.next (by omega)
      simp [shape, Literal.Shape.period?, CalendarPeriod.first, CalendarPeriod.next, hfirst, hnext]
  | month y m =>
      have hy : y ≤ 9999 := h.1
      have hfirst := Date.ofFields?_of_isValid hvalid (by omega)
      have hnext := h.next
      simp only [CalendarPeriod.next] at hnext
      simp only [shape, Literal.Shape.period?, CalendarPeriod.first, CalendarPeriod.next, hfirst]
      split at hnext
      · next htwelve => simp [htwelve, Date.ofFields?_of_isValid hnext (by omega)]
      · next htwelve => simp [htwelve, Date.ofFields?_of_isValid hnext (by omega)]
  | day y m n =>
      have hy : y ≤ 9999 := h.1
      have hdate := Date.ofFields?_of_isValid hvalid (by omega)
      simp [shape, Literal.Shape.period?, CalendarPeriod.first, CalendarPeriod.next, hdate]

/-- **The literal of a period.** It is the span from the first date to the next. -/
theorem classify_text (h : P.IsValid) :
    Literal.classify P.text.toList = .valid (.period (Literal.span P.first P.next)) := by
  rw [Literal.classify, shape?_text h.fits]
  simp only [period?_shape h]

end CalendarPeriod

end RecordQuery
