import Mathlib.Data.List.TakeWhile
import RecordQuery.Proofs.Query.ByteShape

/-!
# Reading by places has no fault

Every shape that a text has is that of a written date. Its year has four digits, so that the calendar has all
dates that are reached from it, and the hours and minutes of its offset have two, so that their seconds fit in
32 bits. The main statement, `classify_faultFree`, says that reading by places has no fault for any text, and
finds what the text is as a literal.
-/

namespace RecordQuery

/-! ## Dates inside of the calendar -/

/-- The next day lies in the same year or the next. -/
theorem Date.year_le_succ {a b : Date} (ha : a.IsValid) (hb : b.IsValid)
    (h : a.dayNumber ≤ b.dayNumber + 1) : a.year ≤ b.year + 1 := by
  by_contra hlt
  have hfirst : (⟨b.year + 1, 1, 1⟩ : Date).IsValid :=
    Date.isValid_first _ (Nat.le_refl 1) (by decide)
  have hbefore : b.dayNumber < Date.dayNumber ⟨b.year + 1, 1, 1⟩ :=
    Date.Before.dayNumber_lt (.inl (Int.lt_succ b.year)) hb hfirst
  have hafter : Date.dayNumber ⟨b.year + 1, 1, 1⟩ < a.dayNumber :=
    Date.Before.dayNumber_lt (.inl (Int.not_le.mp hlt)) hfirst ha
  omega

namespace ByteReader

open Text

/-- A date far from both ends of the calendar: its year is one of four digits or the next. -/
structure Inner (d : Date) : Prop where
  valid : d.IsValid
  nonneg : 0 ≤ d.year
  le : d.year ≤ 10000

theorem inner_of_ofFields? {y month day : Nat} {d : Date} (hy : y < 10000)
    (h : Date.ofFields? y month day = some d) : Inner d := by
  obtain ⟨rfl, hvalid⟩ := Date.ofFields?_eq_some h
  have hyear : (y : Int) ≤ 10000 := by omega
  exact ⟨hvalid, Int.natCast_nonneg y, hyear⟩

/-- The days before and after such a date are dates of the calendar. -/
theorem Inner.yearInRange {d a : Date} (hd : Inner d) (ha : a.IsValid)
    (hlow : d.dayNumber ≤ a.dayNumber + 1) (hhigh : a.dayNumber ≤ d.dayNumber + 1) :
    Date.yearInRange a.year = true := by
  have hle := Date.year_le_succ ha hd.valid hhigh
  have hge := Date.year_le_succ hd.valid ha hlow
  have hnonneg := hd.nonneg
  have hyear := hd.le
  simp only [Date.yearInRange, Bool.and_eq_true, decide_eq_true_eq]
  omega

theorem Inner.dayAfter_eq {d : Date} (hd : Inner d) : dayAfter d = .ok (Literal.dayAfter d) := by
  have hrange : Date.yearInRange (Literal.dayAfter d).year = true :=
    hd.yearInRange (Literal.isValid_dayAfter d) (by rw [Literal.dayNumber_dayAfter]; omega)
      (Int.le_of_eq (Literal.dayNumber_dayAfter d))
  rw [dayAfter, require_of hrange]
  rfl

theorem Inner.onDate_eq {d : Date} {x : Instant} (hd : Inner d) (hlow : d.dayNumber ≤ x.second / 86400 + 1)
    (hhigh : x.second / 86400 ≤ d.dayNumber + 1) : onDate x = .ok x := by
  have hrange : Date.yearInRange x.date.year = true :=
    hd.yearInRange x.isValid_date (by simpa using hlow) (by simpa using hhigh)
  rw [onDate, require_of hrange]
  rfl

theorem Inner.span_eq {d next : Date} (hd : Inner d) (hlow : d.dayNumber ≤ next.dayNumber)
    (hhigh : next.dayNumber ≤ d.dayNumber + 1) (first : Date) :
    span first next = .ok (Literal.span first next) := by
  have hsecond : (Instant.beforeMidnight next).second = next.dayNumber * 86400 - 1 := rfl
  rw [span, hd.onDate_eq (by omega) (by omega)]
  rfl

theorem inner_first {y : Int} {month : Nat} (hy : 0 ≤ y ∧ y ≤ 10000)
    (hmonth : 1 ≤ month ∧ month ≤ 12) : Inner ⟨y, month, 1⟩ := ⟨Date.isValid_first y hmonth.1 hmonth.2, hy.1, hy.2⟩

theorem Inner.ofFields?_eq {y : Int} {month day : Nat} (h : Inner ⟨y, month, day⟩) :
    Date.ofFields? y month day = some ⟨y, month, day⟩ :=
  Date.ofFields?_of_isValid h.valid ⟨h.nonneg, h.le⟩

/-- The period up to the first day of a month. -/
theorem reads_span {y : Int} {month : Nat} (first : Date) (h : Inner ⟨y, month, 1⟩) :
    Reads Eq ((liftM (reached (Date.ofFields? y month 1)) : Checked Date) >>= fun next =>
        liftM (span first next))
      (Date.ofFields? y month 1 >>= fun next => some (Literal.span first next)) := by
  rw [h.ofFields?_eq]
  refine .lift rfl ?_
  rw [h.span_eq (Int.le_refl _) (by omega)]
  exact .pure rfl

/-! ## Values -/

theorem reads_ofOption {α : Type} (o : Option α) : Reads Eq (ofOption o) o := Reads.eq_iff.mpr rfl

/-- An offset is one of less than a day. -/
theorem reads_secondsEast {o : Literal.Offset} (hhours : o.hours < 100) (hminutes : o.minutes < 100) :
    Reads (fun east found => east = found ∧ east.natAbs < 86400) (secondsEast o) o.seconds? := by
  unfold secondsEast Literal.Offset.seconds?
  dsimp only
  by_cases hsixty : o.minutes < 60
  · refine .of_guard hsixty (.lift (u32_of_lt (by omega)) (.lift (u32_of_lt (by omega)) ?_))
    refine .lift (u32_of_lt (by omega)) (.lift (i32_of_lt (by omega)) ?_)
    -- All that is left of the sign is that it keeps the size of the total.
    have heast : ∀ total : Nat, (if o.west then -(total : Int) else total).natAbs = total := by
      intro total
      split <;> omega
    have htotal := heast (o.hours * 3600 + o.minutes * 60)
    generalize (if o.west then -((o.hours * 3600 + o.minutes * 60 : Nat) : Int)
      else (o.hours * 3600 + o.minutes * 60 : Nat)) = east at htotal ⊢
    refine .lift (i32_of_lt (by omega)) ?_
    by_cases hday : o.hours * 3600 + o.minutes * 60 < 86400
    · rw [if_pos (by simp only [hsixty, hday]; rfl)]
      exact .of_guard (by omega) (.pure ⟨rfl, by omega⟩)
    · rw [if_neg (by simp only [hday]; simp)]
      exact .of_not_guard (by omega)
  · rw [if_neg (by simp only [hsixty]; simp)]
    exact .of_not_guard hsixty

theorem reads_coarse {P : CalendarPeriod} (hfits : P.Fits) :
    Reads Eq (period P.shape) P.shape.period? := by
  cases P with
  | year y =>
      have hy : y < 10000 := hfits
      refine (reads_ofOption _).bind ?_
      rintro first _ rfl -
      exact .lift (i32_of_lt (by omega)) (reads_span first (inner_first (by omega) (by decide)))
  | month y m =>
      have hy : y < 10000 := hfits.1
      refine (reads_ofOption _).bind ?_
      rintro first _ rfl hfirst
      obtain ⟨rfl, hvalid⟩ := Date.ofFields?_eq_some hfirst
      have hmonth : 1 ≤ m ∧ m ≤ 12 := hvalid.month
      dsimp only
      split
      · exact .lift (i32_of_lt (by omega)) (reads_span _ (inner_first (by omega) (by decide)))
      · exact .lift (u32_of_lt (by omega)) (reads_span _ (inner_first (by omega) (by omega)))
  | day y m d =>
      refine (reads_ofOption _).bind ?_
      rintro date _ rfl hdate
      have hinner := inner_of_ofFields? hfits.1 hdate
      have hnext := Literal.dayNumber_dayAfter date
      refine .lift hinner.dayAfter_eq ?_
      rw [hinner.span_eq (by omega) (Int.le_of_eq hnext)]
      exact .pure rfl

/-- The offset and the time of day move an instant by less than two days. -/
theorem Inner.onDate_of_ofDateTime? {d : Date} {clock : Clock} {east : Int} {x : Instant} (hd : Inner d)
    (heast : east.natAbs < 86400) (hx : Instant.ofDateTime? d clock east = some x) : onDate x = .ok x := by
  unfold Instant.ofDateTime? at hx
  split at hx
  · next hclock =>
      have hx : x.second = d.dayNumber * 86400 +
          (clock.hour * 3600 + clock.minute * 60 + clock.second : Nat) - east := by
        rw [← Option.some.inj hx]
      simp only [Clock.isValid, Bool.and_eq_true, decide_eq_true_eq] at hclock
      obtain ⟨⟨⟨hhour, hminute⟩, hsecond⟩, -⟩ := hclock
      exact hd.onDate_eq (by omega) (by omega)
  · cases hx

theorem reads_timed (t : Timestamp) : Reads Eq (period t.shape) t.shape.period? := by
  refine (reads_ofOption _).bind ?_
  rintro date _ rfl hdate
  have hinner := inner_of_ofFields? t.year.isLt hdate
  by_cases hclock : t.clock.isValid = true
  · have hzone : t.zone.offset.hours < 100 ∧ t.zone.offset.minutes < 100 := by
      cases hz : t.zone <;> simp [Zone.offset]
    refine .of_guard hclock ((reads_secondsEast hzone.1 hzone.2).bind ?_)
    rintro east _ ⟨rfl, heast⟩ -
    refine (reads_ofOption _).bind ?_
    rintro x _ rfl hx
    exact .lift (hinner.onDate_of_ofDateTime? heast hx) (.pure rfl)
  · have hnone : ∀ east, Instant.ofDateTime? date t.clock east = none :=
      fun east => dif_neg hclock
    simp only [hnone]
    cases t.zone.offset.seconds? <;> exact .of_not_guard hclock

/-- **Periods are reached.** The fields of a written date are as wide as they are written, which keeps the
arithmetic on them and the dates they lead to in bounds. -/
theorem reads_period (d : WrittenDate) : Reads Eq (period d.shape) d.shape.period? := by
  cases d with
  | coarse P fits => exact reads_coarse fits
  | timed t => exact reads_timed t

/-- No date is written with the last year of the calendar, which has no next one. -/
example : (period (.year 262142)).run = .error .calendar := by decide +kernel

/-! ## Numerals -/

theorem allDigits_bytes (text : List Char) :
    allDigits (bytes text) = (!text.isEmpty && text.all Char.isDigit) := by
  have hempty : (bytes text).isEmpty = text.isEmpty := by
    rw [Bool.eq_iff_iff, List.isEmpty_iff, List.isEmpty_iff, bytes_eq_nil]
  rw [allDigits, hempty, encodes_isDigit.all]

theorem unsigned_bytes (text : List Char) :
    unsigned (bytes text) = .ok (bytes (Numeral.sign text).2) := by
  have h := Spells.start text
  unfold Numeral.sign
  split
  · next rest =>
      rw [unsigned, if_pos (.inr ((h.getElem?_cons_iff (by decide)).mpr rfl))]
      exact sliceFrom_of_spells (h.next (by decide))
  · next rest =>
      rw [unsigned, if_pos (.inl ((h.getElem?_cons_iff (by decide)).mpr rfl))]
      exact sliceFrom_of_spells (h.next (by decide))
  · next hminus hplus =>
      rw [unsigned, if_neg (not_or.mpr
        ⟨h.getElem?_ne (by decide) hplus, h.getElem?_ne (by decide) hminus⟩)]

theorem findIdx?_bytes {c : Char} {text : List Char} (hascii : isAscii c = true) (hc : c ∉ text) :
    (bytes text).findIdx? (· == c.toUInt8) = none := by
  have hother : text.all (fun d => !(d == c)) = true := by
    rw [List.all_eq_true]
    intro d hd
    rw [Bool.not_eq_true', beq_eq_false_iff_ne]
    rintro rfl
    exact hc hd
  rw [← (encodes_eq hascii).not.all, List.all_eq_true] at hother
  rw [List.findIdx?_eq_none_iff]
  exact fun b hb => (Bool.not_eq_true' _).mp (hother b hb)

theorem isDecimal_whole {text : List Char} (hpoint : '.' ∉ text) :
    isDecimal (bytes text) = .ok (!text.isEmpty && text.all Char.isDigit) := by
  rw [isDecimal, findIdx?_bytes (by decide) hpoint, ← allDigits_bytes]
  rfl

/-- The first point stands right behind what has none. -/
theorem isDecimal_point {whole : List Char} (hpoint : '.' ∉ whole) (fraction : List Char) :
    isDecimal (bytes (whole ++ '.' :: fraction)) =
      .ok (!whole.isEmpty && whole.all Char.isDigit && (!fraction.isEmpty && fraction.all Char.isDigit)) := by
  have hbehind := Spells.behind whole ('.' :: fraction)
  have hindex : (bytes (whole ++ '.' :: fraction)).findIdx? (· == '.'.toUInt8) =
      some (bytes whole).length := by
    rw [bytes_append, bytes_cons_of_isAscii (by decide), List.findIdx?_append,
      findIdx?_bytes (by decide) hpoint]
    simp [List.findIdx?_cons]
  have htake : (bytes (whole ++ '.' :: fraction)).take (bytes whole).length = bytes whole := by
    rw [bytes_append, List.take_left]
  rw [isDecimal, hindex]
  dsimp only
  rw [sliceTo_of_spells hbehind, sliceFrom_of_spells (hbehind.next (by decide)), htake,
    ← allDigits_bytes, ← allDigits_bytes]
  simp only [ok_bind]
  cases allDigits (bytes whole) <;> rfl

theorem isNumeral_bytes (text : List Char) : isNumeral (bytes text) = .ok (Literal.isNumeral text) := by
  rw [isNumeral, unsigned_bytes, ok_bind, Literal.isNumeral]
  generalize (Numeral.sign text).2 = body
  have hother : ∀ run : List Char, '.' ∉ run → ∀ c ∈ run, (c != '.') = true := by
    intro run hrun c hc
    rw [bne_iff_ne]
    rintro rfl
    exact hrun hc
  by_cases hpoint : '.' ∈ body
  · obtain ⟨whole, fraction, rfl, hwhole⟩ := List.eq_append_cons_of_mem hpoint
    have hstop : ('.' :: fraction).head?.all (!(· != '.') ·) = true := rfl
    obtain ⟨htake, hdrop⟩ := Match.takeWhile_append_of_stop (hother whole hwhole) hstop
    rw [isDecimal_point hwhole]
    simp [htake, hdrop]
  · have htake := List.takeWhile_eq_self_iff.mpr (hother body hpoint)
    rw [isDecimal_whole hpoint]
    simp [htake, hpoint]

/-! ## Literals -/

/-- **No faults.** Reading a literal by places never takes a part outside of the bytes, more than nine digits
at once, an integer that its type cannot hold, a fraction of a whole second or a date outside of the calendar,
and it tells of every text what reading from the front does. -/
theorem classify_faultFree (text : List Char) : classify text = .ok (Literal.classify text) := by
  have hshape := Reads.eq_iff.mp (reads_shape text)
  unfold classify Literal.classify
  cases hfound : Literal.shape? text with
  | some s =>
      -- No shape is known but those of written dates.
      obtain ⟨d, rfl⟩ := Literal.exists_writtenDate hfound
      obtain rfl : d.shape = s := Option.some.inj (d.shape?_text.symm.trans hfound)
      have hperiod := Reads.eq_iff.mp (reads_period d)
      simp only [hshape, hfound, hperiod, ok_bind]
      cases d.shape.period? <;> rfl
  | none =>
      simp only [hshape, hfound, isNumeral_bytes, ok_bind]
      cases Literal.isNumeral text with
      | false => rfl
      | true =>
          cases Numeral.read? text with
          | none => rfl
          | some x => cases hfinite : x.isFinite <;> simp only [hfinite] <;> rfl

end ByteReader

end RecordQuery
