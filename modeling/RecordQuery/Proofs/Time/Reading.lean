import Mathlib.Data.List.TakeWhile
import RecordQuery.Proofs.Query.WrittenDate
import RecordQuery.Proofs.Text.Words
import RecordQuery.Time.Reading

/-!
# Written dates in records

Records write dates in forms of their own, which are tried one after the other. A day, and a time of day
with its seconds whose zone is none, a letter or one with a colon, are read by one of these forms, and what
is read is the start of the period that the same text is in a query.
-/

namespace RecordQuery

/-- The zone is one that the full form of records has, or none. -/
def Zone.IsCommon : Zone → Prop
  | absent | letter _ | parted .. => True
  | hours .. | joined .. => False

/-- A date that both queries and records can write. -/
def WrittenDate.IsCommon : WrittenDate → Prop
  | coarse (.day ..) _ => True
  | coarse (.year _) _ | coarse (.month ..) _ => False
  | timed t => t.capital = true ∧ t.seconds ≠ .absent ∧ t.zone.IsCommon

namespace Instant

/-! ## Fields -/

theorem digits?_padded {least width n : Nat} (hleast : least ≤ width) (hwidth : 0 < width)
    (hn : n < 10 ^ width) (rest : List Char) :
    digits? least width (padded width n ++ rest) = some (n, rest) := by
  have hlength := length_padded hwidth hn
  have htake : (padded width n ++ rest).take width = padded width n := List.take_left' hlength
  have hdrop : (padded width n ++ rest).drop width = rest := List.drop_left' hlength
  have hrun : (padded width n).takeWhile Char.isDigit = padded width n :=
    List.takeWhile_eq_self_iff.mpr fun _ => isDigit_of_mem_padded
  simp only [digits?, htake, hrun, hlength, hdrop, if_neg (Nat.not_lt.mpr hleast), natOfDigits_padded]

theorem dropWhile_padded (width n : Nat) (rest : List Char) :
    (padded width n ++ rest).dropWhile Text.isBlank = padded width n ++ rest := by
  obtain ⟨c, digits, hdigits, hc⟩ := exists_padded width n
  have hblank : Text.isBlank c = false := Text.isBlank_of_blankCodes (by decide) hc
  rw [hdigits, List.cons_append, List.dropWhile_cons_of_neg (by simp [hblank])]

theorem digits?_two (n : Fin 100) (rest : List Char) :
    digits? 2 2 (padded 2 n ++ rest) = some (n.val, rest) :=
  digits?_padded (by decide) (by decide) (by simp) rest

theorem digits?_four (n : Fin 10000) (rest : List Char) :
    digits? 4 4 (padded 4 n ++ rest) = some (n.val, rest) :=
  digits?_padded (by decide) (by decide) (by simp) rest

theorem field?_padded (n : Fin 100) (rest : List Char) :
    field? (padded 2 n ++ rest) = some (n.val, rest) := by
  rw [field?, dropWhile_padded]
  exact digits?_padded (by decide) (by decide) (by simp) rest

theorem year?_padded (n : Fin 10000) (rest : List Char) :
    year? (padded 4 n ++ rest) = some ((n.val : Int), rest) := by
  have hyear : digits? 1 4 (padded 4 n ++ rest) = some (n.val, rest) :=
    digits?_padded (by decide) (by decide) (by simp) rest
  obtain ⟨c, digits, hdigits, hc⟩ := exists_padded 4 n
  have hwest : c ≠ '-' := Numeral.ne_of_isDigit hc rfl
  have heast : c ≠ '+' := Numeral.ne_of_isDigit hc rfl
  rw [hdigits, List.cons_append] at hyear
  rw [year?, dropWhile_padded, hdigits, List.cons_append]
  simp [hwest, heast, hyear]

@[simp] theorem mark?_self (c : Char) (rest : List Char) : mark? c (c :: rest) = some rest := if_pos rfl

/-! ## Parts of a time of day -/

theorem fraction?_zone (z : Zone) : fraction? z.text = some (0, z.text) := by
  unfold fraction?
  split
  · next rest htext => exact absurd htext (Literal.zone_ne_cons z (.inr rfl) rest)
  · rfl

/-- Nine digits of a fraction count its nanoseconds. -/
theorem natOfDigits_nine (f : Fraction) :
    Numeral.natOfDigits ((padded f.width f.digits ++ List.replicate 9 '0').take 9) = f.nano := by
  have hlength := length_padded f.width_pos f.digits_lt
  have hnine : (padded f.width f.digits ++ List.replicate 9 '0').take 9 =
      padded f.width f.digits ++ List.replicate (9 - f.width) '0' := by
    rw [List.take_append, List.take_of_length_le (by rw [hlength]; exact f.width_le), hlength,
      List.take_replicate, Nat.min_eq_left (Nat.sub_le 9 f.width)]
  rw [hnine, Numeral.natOfDigits_eq, Nat.ofDigitChars_append, Nat.ofDigitChars_replicate_zero,
    ← Numeral.natOfDigits_eq, natOfDigits_padded, Fraction.nano, Nat.mul_comm]

theorem fraction?_text (f : Fraction) (z : Zone) :
    fraction? (f.text ++ z.text) = some (f.nano, z.text) := by
  obtain ⟨htake, hdrop⟩ := Literal.span_fraction f z
  obtain ⟨c, digits, hdigits, -⟩ := exists_padded f.width f.digits
  have hne : (padded f.width f.digits).isEmpty = false := by rw [hdigits]; rfl
  simp only [Fraction.text, List.cons_append, fraction?, htake, hdrop, hne, natOfDigits_nine,
    Bool.false_eq_true, if_false]

/-- Behind the digits of a second, its fraction is read up to the zone. -/
theorem exists_fraction {s : Seconds} (h : s ≠ .absent) (z : Zone) :
    ∃ rest, s.text ++ z.text = ':' :: (padded 2 s.second ++ rest) ∧
      digits? 2 2 (padded 2 s.second ++ rest) = some (s.second, rest) ∧
      field? (padded 2 s.second ++ rest) = some (s.second, rest) ∧
      fraction? rest = some (s.nano, z.text) := by
  cases s with
  | absent => exact absurd rfl h
  | whole s => exact ⟨z.text, by simp [Seconds.text, Seconds.second], digits?_two s _, field?_padded s _,
      fraction?_zone z⟩
  | parts s f => exact ⟨f.text ++ z.text, by simp [Seconds.text, Seconds.second], digits?_two s _,
      field?_padded s _, fraction?_text f z⟩

theorem offset?_text {z : Zone} (hcommon : z.IsCommon) (hne : z ≠ .absent) (hreal : z.IsReal) :
    offset? z.text = some z.east := by
  cases z with
  | absent => exact absurd rfl hne
  | letter capital => cases capital <;> rfl
  | hours west h | joined west h m => exact hcommon.elim
  | parted west h m =>
      have hminutes : digits? 2 2 (padded 2 m) = some (m.val, []) := by
        rw [← digits?_two m [], List.append_nil]
      obtain ⟨hhours, hlimit⟩ := hreal
      have hfields : (h : Nat) < 24 ∧ (m : Nat) < 60 := ⟨hhours, hlimit⟩
      cases west <;>
        simp [Zone.text, Zone.sign, offset?, digits?_two, mark?, hminutes, hfields, Zone.east,
          Zone.offset]

theorem clockOf?_eq {t : Timestamp} (h : t.IsReal) :
    clockOf? t.hour t.minute t.seconds.second t.seconds.nano = some t.clock := by
  have hle : t.seconds.second ≤ 59 := Nat.le_of_lt_succ h.second
  have hsecond : t.seconds.second ≤ 60 ∧ t.seconds.second ≠ 60 := by omega
  simp [clockOf?, h.hour, h.minute, hsecond, Nat.min_eq_left hle, Timestamp.clock]

/-! ## Forms -/

/-- A reading goes on behind a part that is read. -/
theorem bind_part {α β : Type} {part : Option α} {a : α} {next : α → Option β} {result : Option β}
    (hpart : part = some a) (hnext : next a = result) : part.bind next = result := by
  rw [hpart]
  exact hnext

/-- A day, with what follows it. -/
theorem date?_text {y : Fin 10000} {m d : Fin 100} (h : (⟨y, m, d⟩ : Date).IsValid) (rest : List Char) :
    date? (padded 4 y ++ '-' :: (padded 2 m ++ '-' :: (padded 2 d ++ rest))) = some (⟨y, m, d⟩, rest) := by
  have hdate : Date.ofFields? y m d = some ⟨y, m, d⟩ := Date.ofFields?_of_isValid h (by omega)
  refine bind_part (year?_padded y _) ?_
  refine bind_part (mark?_self '-' _) ?_
  refine bind_part (field?_padded m _) ?_
  refine bind_part (mark?_self '-' _) ?_
  refine bind_part (field?_padded d _) ?_
  exact bind_part hdate rfl

section Timestamp

variable {t : Timestamp} (hcapital : t.capital = true) (hseconds : t.seconds ≠ .absent)
  (hreal : t.IsReal)

include hcapital hseconds hreal

/-- The full form takes what stands in front of the zone. -/
theorem readFull?_text :
    readFull? t.text = (offset? t.zone.text).bind fun offset => ofDateTime? t.date t.clock offset := by
  obtain ⟨rest, htext, hsecond, -, hfraction⟩ := exists_fraction hseconds t.zone
  rw [Timestamp.text, Timestamp.clockText, hcapital, htext]
  refine bind_part (digits?_four t.year _) ?_
  refine bind_part (mark?_self '-' _) ?_
  refine bind_part (digits?_two t.month _) ?_
  refine bind_part (mark?_self '-' _) ?_
  refine bind_part (digits?_two t.day _) ?_
  -- The capital letter is the first of three marks that are tried.
  refine bind_part rfl ?_
  refine bind_part (digits?_two t.hour _) ?_
  refine bind_part (mark?_self ':' _) ?_
  refine bind_part (digits?_two t.minute _) ?_
  refine bind_part (mark?_self ':' _) ?_
  refine bind_part hsecond ?_
  refine bind_part hfraction ?_
  simp only [t.ofFields?_of_isReal hreal, clockOf?_eq hreal, Option.bind_eq_bind, Option.bind_some]

theorem readPlain?_text (hzone : t.zone = .absent) : readPlain? t.text = some t.instant := by
  obtain ⟨rest, htext, -, hsecond, hfraction⟩ := exists_fraction hseconds t.zone
  have hinstant := t.ofDateTime?_of_isReal hreal
  rw [hzone] at hfraction hinstant
  rw [Timestamp.text, Timestamp.clockText, hcapital, htext]
  refine bind_part (date?_text hreal.date _) ?_
  refine bind_part (mark?_self 'T' _) ?_
  refine bind_part (field?_padded t.hour _) ?_
  refine bind_part (mark?_self ':' _) ?_
  refine bind_part (field?_padded t.minute _) ?_
  refine bind_part (mark?_self ':' _) ?_
  refine bind_part hsecond ?_
  refine bind_part hfraction ?_
  exact bind_part (clockOf?_eq hreal) hinstant

end Timestamp

/-- The forms with a time of day do not take a day alone. -/
theorem read?_day {y : Fin 10000} {m d : Fin 100} (h : (⟨y, m, d⟩ : Date).IsValid) :
    read? (padded 4 y ++ '-' :: (padded 2 m ++ '-' :: (padded 2 d ++ []))) = some (midnight ⟨y, m, d⟩) := by
  generalize htext : padded 4 y ++ '-' :: (padded 2 m ++ '-' :: (padded 2 d ++ [])) = text
  have hfull : readFull? text = none := by
    rw [← htext]
    refine bind_part (digits?_four y _) ?_
    refine bind_part (mark?_self '-' _) ?_
    refine bind_part (digits?_two m _) ?_
    refine bind_part (mark?_self '-' _) ?_
    -- No mark starts the empty rest.
    exact bind_part (digits?_two d _) rfl
  have hdate : date? text = some (⟨y, m, d⟩, []) := by
    rw [← htext]
    exact date?_text h []
  have hplain : readPlain? text = none := bind_part hdate rfl
  have halone : readDate? text = some (midnight ⟨y, m, d⟩) := bind_part hdate rfl
  rw [read?, hfull, hplain, halone]
  rfl

/-- A time of day is read in the full form if it has a zone, and else in the next one. -/
theorem read?_timestamp {t : Timestamp} (hcommon : (WrittenDate.timed t).IsCommon) (hreal : t.IsReal) :
    read? t.text = some t.instant := by
  obtain ⟨hcapital, hseconds, hzone⟩ := hcommon
  have hfull := readFull?_text hcapital hseconds hreal
  by_cases habsent : t.zone = .absent
  · rw [habsent] at hfull
    have hplain := readPlain?_text hcapital hseconds hreal habsent
    rw [read?, hfull, hplain]
    rfl
  · rw [offset?_text hzone habsent hreal.zone, Option.bind_some, t.ofDateTime?_of_isReal hreal] at hfull
    rw [read?, hfull]
    rfl

end Instant

/-- Records read what both can write as the start of what it is in a query. -/
theorem WrittenDate.read?_text {d : WrittenDate} (hcommon : d.IsCommon) (hreal : d.IsReal) :
    Instant.read? d.text = some d.period.first := by
  cases d with
  | timed t => exact Instant.read?_timestamp hcommon hreal
  | coarse P fits =>
      cases P with
      | year y | month y m => exact hcommon.elim
      | day y m d =>
          obtain ⟨hy, hm, hd⟩ := fits
          have hday := Instant.read?_day (y := ⟨y, hy⟩) (m := ⟨m, hm⟩) (d := ⟨d, hd⟩) hreal.2
          rw [List.append_nil] at hday
          show Instant.read? (CalendarPeriod.day y m d).text.toList = _
          rw [CalendarPeriod.text, String.toList_ofList]
          exact hday

end RecordQuery
