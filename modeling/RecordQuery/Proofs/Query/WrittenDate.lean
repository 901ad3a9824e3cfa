import RecordQuery.Proofs.Query.CalendarPeriod
import RecordQuery.Proofs.Query.Spelling

/-!
# Dates as they are written

A date literal is a year, a month or a day, or a day with a time of day. What is written is made of
fields that have the digits they are written with, so that its text has the shape of a date; whether the
calendar, the clock and the zones have what the fields name is another question.
-/

namespace RecordQuery

/-! ## Offsets from UTC -/

/-- An offset from UTC as it is written behind a time of day. -/
inductive Zone where
  | absent
  | letter (capital : Bool)
  | hours (west : Bool) (hours : Fin 100)
  /-- The minutes right behind the hours. -/
  | joined (west : Bool) (hours minutes : Fin 100)
  /-- The minutes behind a colon. -/
  | parted (west : Bool) (hours minutes : Fin 100)
  deriving DecidableEq, Repr

namespace Zone

def sign (west : Bool) : Char := if west then '-' else '+'

def text : Zone → List Char
  | absent => []
  | letter capital => [if capital then 'Z' else 'z']
  | hours west h => sign west :: Instant.padded 2 h
  | joined west h m => sign west :: (Instant.padded 2 h ++ Instant.padded 2 m)
  | parted west h m => sign west :: (Instant.padded 2 h ++ ':' :: Instant.padded 2 m)

/-- The fields that are written; without any, the offset is none. -/
def offset : Zone → Literal.Offset
  | absent | letter _ => ⟨false, 0, 0⟩
  | hours west h => ⟨west, h, 0⟩
  | joined west h m | parted west h m => ⟨west, h, m⟩

/-- The offset is one of less than a day. -/
def IsReal (z : Zone) : Prop := z.offset.hours < 24 ∧ z.offset.minutes < 60

instance (z : Zone) : Decidable z.IsReal := inferInstanceAs (Decidable (_ ∧ _))

/-- Seconds east of UTC. -/
def east (z : Zone) : Int :=
  let total : Int := z.offset.hours * 3600 + z.offset.minutes * 60
  if z.offset.west then -total else total

end Zone

/-! ## Times of day -/

/-- A fraction of a second as it is written. -/
structure Fraction where
  /-- The number of digits. -/
  width : Nat
  digits : Nat
  width_pos : 0 < width := by decide
  width_le : width ≤ 9 := by decide
  digits_lt : digits < 10 ^ width := by decide
  deriving DecidableEq, Repr

namespace Fraction

def text (f : Fraction) : List Char := '.' :: Instant.padded f.width f.digits

def nano (f : Fraction) : Nat := f.digits * 10 ^ (9 - f.width)

theorem nano_lt (f : Fraction) : f.nano < 1000000000 := by
  have hwidth : 10 ^ f.width * 10 ^ (9 - f.width) = 1000000000 := by
    rw [← Nat.pow_add, Nat.add_sub_cancel' f.width_le]
  calc f.nano < 10 ^ f.width * 10 ^ (9 - f.width) :=
        Nat.mul_lt_mul_of_pos_right f.digits_lt (Nat.pow_pos (by decide))
    _ = 1000000000 := hwidth

end Fraction

/-- The seconds of a time of day as they are written. -/
inductive Seconds where
  | absent
  | whole (second : Fin 100)
  | parts (second : Fin 100) (fraction : Fraction)
  deriving DecidableEq, Repr

namespace Seconds

def text : Seconds → List Char
  | absent => []
  | whole s => ':' :: Instant.padded 2 s
  | parts s f => ':' :: (Instant.padded 2 s ++ f.text)

def second : Seconds → Nat
  | absent => 0
  | whole s | parts s _ => s

def nano : Seconds → Nat
  | absent | whole _ => 0
  | parts _ f => f.nano

theorem nano_lt (s : Seconds) : s.nano < 1000000000 := by
  cases s with
  | absent | whole s => exact (by decide : 0 < 1000000000)
  | parts s f => exact f.nano_lt

end Seconds

/-- A day and a time of day as they are written. -/
structure Timestamp where
  year : Fin 10000
  month : Fin 100
  day : Fin 100
  /-- Whether the letter in front of the time of day is a capital. -/
  capital : Bool
  hour : Fin 100
  minute : Fin 100
  seconds : Seconds
  zone : Zone
  deriving DecidableEq, Repr

namespace Timestamp

variable (t : Timestamp)

def clockText : List Char :=
  Instant.padded 2 t.hour ++ ':' :: (Instant.padded 2 t.minute ++ (t.seconds.text ++ t.zone.text))

def text : List Char :=
  Instant.padded 4 t.year ++ '-' :: (Instant.padded 2 t.month ++ '-' :: (Instant.padded 2 t.day ++
    (if t.capital then 'T' else 't') :: t.clockText))

def date : Date := ⟨t.year, t.month, t.day⟩

def clock : Clock := ⟨t.hour, t.minute, t.seconds.second, t.seconds.nano⟩

/-- The shape of the text. -/
def shape : Literal.Shape := .time t.year t.month t.day t.clock t.zone.offset

/-- The calendar has the day, the clock the time of day, and the offset is one of less than a day. -/
structure IsReal : Prop where
  date : t.date.IsValid
  hour : (t.hour : Nat) < 24
  minute : (t.minute : Nat) < 60
  second : t.seconds.second < 60
  zone : t.zone.IsReal

/-- The time that the clock shows, less the offset. -/
def instant : Instant where
  second :=
    t.date.dayNumber * 86400 + (t.hour * 3600 + t.minute * 60 + t.seconds.second : Nat) - t.zone.east
  nano := t.seconds.nano
  nano_lt := Nat.lt_trans t.seconds.nano_lt (by decide)

end Timestamp

/-! ## Reading -/

namespace Literal

theorem digits?_two (n : Fin 100) (rest : List Char) :
    digits? 2 (Instant.padded 2 n ++ rest) = some (n.val, rest) :=
  digits?_padded (by decide) (by simp) rest

theorem digits?_two_nil (n : Fin 100) : digits? 2 (Instant.padded 2 n) = some (n.val, []) := by
  rw [← digits?_two n [], List.append_nil]

theorem offset?_text (z : Zone) : offset? z.text = some z.offset := by
  cases z with
  | absent => rfl
  | letter capital => cases capital <;> rfl
  | hours west h =>
      cases west <;> simp [Zone.text, Zone.sign, Zone.offset, offset?, digits?_two_nil]
  | joined west h m =>
      obtain ⟨c, rest, hm, hc⟩ := Instant.exists_padded 2 m
      have hminutes := digits?_two_nil m
      have hcolon : c ≠ ':' := Numeral.ne_of_isDigit hc rfl
      rw [hm] at hminutes
      cases west <;>
        simp [Zone.text, Zone.sign, Zone.offset, offset?, digits?_two, hm, hcolon, hminutes]
  | parted west h m =>
      cases west <;>
        simp [Zone.text, Zone.sign, Zone.offset, offset?, digits?_two, digits?_two_nil]

/-- No zone starts with a digit, a colon or a point. -/
theorem head?_zone (z : Zone) : ∀ c ∈ z.text.head?, c.isDigit = false ∧ c ≠ ':' ∧ c ≠ '.' := by
  cases z with
  | absent => simp [Zone.text]
  | letter capital => cases capital <;> simp [Zone.text]
  | hours west h | joined west h m | parted west h m =>
      cases west <;> simp [Zone.text, Zone.sign]

theorem zone_ne_cons (z : Zone) {c : Char} (hc : c = ':' ∨ c = '.') (rest : List Char) :
    z.text ≠ c :: rest := by
  intro htext
  have hhead := head?_zone z
  rw [htext] at hhead
  obtain ⟨-, hcolon, hpoint⟩ := hhead c rfl
  rcases hc with rfl | rfl
  · exact hcolon rfl
  · exact hpoint rfl

/-- The digits of a fraction end where the zone starts. -/
theorem span_fraction (f : Fraction) (z : Zone) :
    (Instant.padded f.width f.digits ++ z.text).takeWhile Char.isDigit =
        Instant.padded f.width f.digits ∧
      (Instant.padded f.width f.digits ++ z.text).dropWhile Char.isDigit = z.text := by
  have hrun : ∀ c ∈ Instant.padded f.width f.digits, c.isDigit = true :=
    fun c => Instant.isDigit_of_mem_padded
  have hstop : z.text.head?.all (!Char.isDigit ·) = true := by
    rw [Option.all_eq_true]
    intro c hc
    rw [(head?_zone z c hc).1, Bool.not_false]
  exact Match.takeWhile_append_of_stop hrun hstop

theorem fraction?_zone (z : Zone) : fraction? z.text = some (0, z.text) := by
  unfold fraction?
  split
  · next rest htext => exact absurd htext (zone_ne_cons z (.inr rfl) rest)
  · rfl

theorem fraction?_text (f : Fraction) (z : Zone) :
    fraction? (f.text ++ z.text) = some (f.nano, z.text) := by
  obtain ⟨htake, hdrop⟩ := span_fraction f z
  have hlength := Instant.length_padded f.width_pos f.digits_lt
  have hwidth : 1 ≤ f.width ∧ f.width ≤ 9 := ⟨f.width_pos, f.width_le⟩
  simp [Fraction.text, fraction?, htake, hdrop, hlength, hwidth, Instant.natOfDigits_padded,
    Fraction.nano]

theorem seconds?_text (s : Seconds) (z : Zone) :
    seconds? (s.text ++ z.text) = some (s.second, s.nano, z.text) := by
  cases s with
  | absent =>
      rw [Seconds.text, List.nil_append]
      unfold seconds?
      split
      · next rest htext => exact absurd htext (zone_ne_cons z (.inl rfl) rest)
      · rfl
  | whole s => simp [Seconds.text, seconds?, digits?_two, fraction?_zone, Seconds.second, Seconds.nano]
  | parts s f =>
      simp [Seconds.text, seconds?, digits?_two, fraction?_text, Seconds.second, Seconds.nano]

theorem clock?_text (t : Timestamp) : clock? t.clockText = some (t.clock, t.zone.offset) := by
  simp [Timestamp.clockText, clock?, digits?_two, seconds?_text, offset?_text, Timestamp.clock]

theorem shape?_timestamp (t : Timestamp) : shape? t.text = some t.shape := by
  have hyear : ∀ rest, digits? 4 (Instant.padded 4 t.year ++ rest) = some (t.year.val, rest) :=
    digits?_padded (by decide) (by simp)
  cases hcapital : t.capital <;>
    simp [Timestamp.text, shape?, hyear, digits?_two, hcapital, clock?_text, Timestamp.shape]

end Literal

/-! ## Values -/

theorem Zone.seconds?_offset_of_isReal {z : Zone} (h : z.IsReal) :
    z.offset.seconds? = some z.east := by
  obtain ⟨hhours, hminutes⟩ := h
  have htotal : z.offset.hours * 3600 + z.offset.minutes * 60 < 86400 := by omega
  simp [Literal.Offset.seconds?, hminutes, htotal, Zone.east]

theorem Zone.seconds?_offset_of_not {z : Zone} (h : ¬ z.IsReal) : z.offset.seconds? = none := by
  have hnot : ¬ (z.offset.minutes < 60 ∧ z.offset.hours * 3600 + z.offset.minutes * 60 < 86400) := by
    rintro ⟨hminutes, htotal⟩
    exact h ⟨by omega, hminutes⟩
  simp only [Literal.Offset.seconds?, Bool.and_eq_true, decide_eq_true_eq, if_neg hnot]

theorem Date.ofFields?_of_not {y : Int} {m d : Nat} (h : ¬ (⟨y, m, d⟩ : Date).IsValid) :
    Date.ofFields? y m d = none := by
  rw [Option.eq_none_iff_forall_not_mem]
  intro date hdate
  obtain ⟨rfl, hvalid⟩ := Date.ofFields?_eq_some hdate
  exact h hvalid

theorem CalendarPeriod.period?_shape_of_not {P : CalendarPeriod} (hfits : P.Fits) (h : ¬ P.IsValid) :
    P.shape.period? = none := by
  cases P with
  | year y => exact absurd (Nat.le_of_lt_succ hfits) h
  | month y m =>
      have hfirst : ¬ (⟨y, m, 1⟩ : Date).IsValid :=
        fun hfirst => h ⟨Nat.le_of_lt_succ hfits.1, hfirst.month⟩
      simp [shape, Literal.Shape.period?, Date.ofFields?_of_not hfirst]
  | day y m d =>
      have hdate : ¬ (⟨y, m, d⟩ : Date).IsValid :=
        fun hdate => h ⟨Nat.le_of_lt_succ hfits.1, hdate⟩
      simp [shape, Literal.Shape.period?, Date.ofFields?_of_not hdate]

namespace Timestamp

variable (t : Timestamp)

theorem isValid_clock :
    t.clock.isValid = true ↔ (t.hour : Nat) < 24 ∧ (t.minute : Nat) < 60 ∧ t.seconds.second < 60 := by
  have hnano : t.clock.nano < 1000000000 := t.seconds.nano_lt
  simp only [Clock.isValid, hnano, Bool.and_eq_true, decide_eq_true_eq, decide_true, Bool.true_or,
    and_true, and_assoc]
  exact Iff.rfl

theorem ofDateTime?_clock (h : t.clock.isValid = true) :
    Instant.ofDateTime? t.date t.clock t.zone.east = some t.instant := dif_pos h

theorem ofFields?_of_isReal (h : t.IsReal) : Date.ofFields? t.year t.month t.day = some t.date :=
  Date.ofFields?_of_isValid h.date (by omega)

theorem ofDateTime?_of_isReal (h : t.IsReal) :
    Instant.ofDateTime? t.date t.clock t.zone.east = some t.instant :=
  t.ofDateTime?_clock (t.isValid_clock.mpr ⟨h.hour, h.minute, h.second⟩)

theorem period?_shape_of_isReal (h : t.IsReal) :
    t.shape.period? = some ⟨t.instant, t.instant, true⟩ := by
  simp [shape, Literal.Shape.period?, t.ofFields?_of_isReal h, Zone.seconds?_offset_of_isReal h.zone,
    t.ofDateTime?_of_isReal h]

theorem period?_shape_of_not (h : ¬ t.IsReal) : t.shape.period? = none := by
  by_cases hdate : t.date.IsValid
  · by_cases hclock : t.clock.isValid = true
    · have hzone : ¬ t.zone.IsReal := by
        intro hzone
        obtain ⟨hhour, hminute, hsecond⟩ := t.isValid_clock.mp hclock
        exact h ⟨hdate, hhour, hminute, hsecond, hzone⟩
      simp [shape, Literal.Shape.period?, Zone.seconds?_offset_of_not hzone]
    · simp [shape, Literal.Shape.period?, Instant.ofDateTime?, hclock]
  · simp [shape, Literal.Shape.period?, Date.ofFields?_of_not hdate]

end Timestamp

/-! ## Dates -/

/-- A date as it is written. -/
inductive WrittenDate where
  | coarse (P : CalendarPeriod) (fits : P.Fits)
  | timed (t : Timestamp)

namespace WrittenDate

def text : WrittenDate → List Char
  | coarse P _ => P.text.toList
  | timed t => t.text

/-- The shape of the text. -/
def shape : WrittenDate → Literal.Shape
  | coarse P _ => P.shape
  | timed t => t.shape

/-- What is written names a date of the calendar and a time of day. -/
def IsReal : WrittenDate → Prop
  | coarse P _ => P.IsValid
  | timed t => t.IsReal

/-- The period that is named: a time of day makes it one instant. -/
def period : WrittenDate → Period
  | coarse P _ => P.period
  | timed t => ⟨t.instant, t.instant, true⟩

theorem shape?_text (d : WrittenDate) : Literal.shape? d.text = some d.shape := by
  cases d with
  | coarse P fits => exact CalendarPeriod.shape?_text fits
  | timed t => exact Literal.shape?_timestamp t

theorem period?_shape_of_isReal {d : WrittenDate} (h : d.IsReal) : d.shape.period? = some d.period := by
  cases d with
  | coarse P fits => exact CalendarPeriod.period?_shape h
  | timed t => exact t.period?_shape_of_isReal h

theorem period?_shape_of_not {d : WrittenDate} (h : ¬ d.IsReal) : d.shape.period? = none := by
  cases d with
  | coarse P fits => exact CalendarPeriod.period?_shape_of_not fits h
  | timed t => exact t.period?_shape_of_not h

/-- **Written dates are read.** -/
theorem classify_text_of_isReal {d : WrittenDate} (h : d.IsReal) :
    Literal.classify d.text = .valid (.period d.period) := by
  rw [Literal.classify, shape?_text d]
  simp only [period?_shape_of_isReal h]

theorem classify_text_of_not {d : WrittenDate} (h : ¬ d.IsReal) :
    Literal.classify d.text = .malformed := by
  rw [Literal.classify, shape?_text d]
  simp only [period?_shape_of_not h]

end WrittenDate

end RecordQuery
