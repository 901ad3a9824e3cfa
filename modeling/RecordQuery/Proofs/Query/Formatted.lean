import RecordQuery.Proofs.Query.Compared
import RecordQuery.Proofs.Query.WrittenDate
import RecordQuery.Proofs.Text.Words

/-!
# Formatted instants

An instant is shown as a date with a time of day, to the millisecond and in UTC. Where that shows all of
it, what is shown is a literal that stands for the instant, and a comparison with it is one token.
-/

namespace RecordQuery

namespace Instant

/-- Nothing of the instant is lost where it is shown: its year has four digits, it is one of whole
milliseconds, and it lies in no leap second. -/
structure Fits (x : Instant) : Prop where
  year : 0 ≤ x.date.year ∧ x.date.year ≤ 9999
  millisecond : x.nano % 1000000 = 0
  ordinary : x.nano < 1000000000

/-- The seconds of the day that are past. -/
def secondOfDay (x : Instant) : Nat := (x.second % 86400).toNat

theorem secondOfDay_lt (x : Instant) : x.secondOfDay < 86400 := by
  unfold secondOfDay
  omega

variable {x : Instant}

/-- What is shown of an instant. -/
def timestamp (x : Instant) (h : x.Fits) : Timestamp where
  year := ⟨x.date.year.toNat, by have := h.year; omega⟩
  month := ⟨x.date.month, by have := x.isValid_date.month; omega⟩
  day := ⟨x.date.day, by have := x.isValid_date.day_le; omega⟩
  capital := true
  hour := ⟨x.secondOfDay / 3600, by have := x.secondOfDay_lt; omega⟩
  minute := ⟨x.secondOfDay / 60 % 60, by omega⟩
  seconds := .parts ⟨x.secondOfDay % 60, by omega⟩
    { width := 3
      digits := x.nano / 1000000
      digits_lt := by have := h.ordinary; omega }
  zone := .letter true

theorem date_timestamp (h : x.Fits) : (x.timestamp h).date = x.date := by
  have hyear : ((x.date.year.toNat : Nat) : Int) = x.date.year := Int.toNat_of_nonneg h.year.1
  simp [timestamp, Timestamp.date, hyear]

theorem text_timestamp (h : x.Fits) : (x.timestamp h).text = x.format.toList := by
  have hyear : yearText x.date.year = padded 4 x.date.year.toNat := by simp [yearText, h.year]
  have hsecond : x.secondOfDay % 60 + x.nano / 1000000000 = x.secondOfDay % 60 := by
    rw [Nat.div_eq_of_lt h.ordinary, Nat.add_zero]
  have hfraction : x.nano % 1000000000 / 1000000 = x.nano / 1000000 := by
    rw [Nat.mod_eq_of_lt h.ordinary]
  rw [date] at hyear
  rw [secondOfDay] at hsecond
  simp [format, Timestamp.text, Timestamp.clockText, timestamp, Seconds.text, Fraction.text, Zone.text,
    date, secondOfDay, hyear, hsecond, hfraction]

theorem isReal_timestamp (h : x.Fits) : (x.timestamp h).IsReal where
  date := by
    rw [date_timestamp]
    exact x.isValid_date
  hour := Nat.div_lt_of_lt_mul x.secondOfDay_lt
  minute := Nat.mod_lt _ (by decide)
  second := Nat.mod_lt _ (by decide)
  zone := (by decide : (Zone.letter true).IsReal)

theorem instant_timestamp (h : x.Fits) : (x.timestamp h).instant = x := by
  have hsecond : (x.timestamp h).instant.second = x.second := by
    -- Days, hours and minutes are parts of the same count of seconds.
    have heast : (Zone.letter true).east = 0 := by decide
    simp only [Timestamp.instant, date_timestamp, dayNumber_date]
    simp only [timestamp, Seconds.second, secondOfDay, heast]
    omega
  have hnano : (x.timestamp h).instant.nano = x.nano :=
    Nat.div_mul_cancel (Nat.dvd_of_mod_eq_zero h.millisecond)
  calc (x.timestamp h).instant
      = ⟨(x.timestamp h).instant.second, (x.timestamp h).instant.nano, _⟩ := rfl
    _ = x := by simp only [hsecond, hnano]

end Instant

/-! ## Queries -/

/-- A query that compares a key with a literal is in its normal spelling. -/
theorem Match.normalize_compared {key literal : String} {c : Comparison}
    (hkey : isKey key.toList = true) (hliteral : Literal.classify literal.toList ≠ .neither) :
    Text.normalize (key ++ c.spelling ++ literal) = key ++ c.spelling ++ literal := by
  refine Text.normalize_of_no_blank ?_ ?_
  · simp [ne_nil_of_isKey hkey]
  · rw [String.toList_append, String.toList_append]
    exact isBlank_compared hkey hliteral

/-- A query that compares a key that the rules accept with a literal has the tokens of the comparison and
no problem. -/
theorem TokenStream.ofText_compared {rules : Rules} {key literal : String} {l : Literal}
    (hkey : Match.isKey key.toList = true) (haccepts : rules.accepts key = true)
    (hl : Literal.classify literal.toList = .valid l) (c : Comparison) :
    ofText rules (key ++ c.spelling ++ literal) = ⟨(l.kinds key c).map (⟨·, 0⟩), []⟩ := by
  have hr : Match.comparisonReading? (String.ofList key.toList) c (Literal.classify literal.toList) =
      some (.tokens (l.kinds key c)) := by
    rw [hl, String.ofList_toList]
    exact Match.comparisonReading?_valid key c l
  have hliteral : Literal.classify literal.toList ≠ .neither := by simp [hl]
  let m := Match.ofLiteral key.toList c.spelling.toList literal.toList (.tokens (l.kinds key c))
  have hlength : (key.toList ++ c.spelling.toList ++ literal.toList).length = m.length := by
    simp [m, Match.ofLiteral, Nat.add_assoc]
  -- The comparison is read as far as the text goes, so it is the only segment.
  have hsegments : Segment.ofText rules (key.toList ++ c.spelling.toList ++ literal.toList) =
      [⟨0, .found m⟩] := by
    have hne : key.toList ++ c.spelling.toList ++ literal.toList ≠ [] := by
      simp [Match.ne_nil_of_isKey hkey]
    have hstart : (key.toList ++ c.spelling.toList ++ literal.toList).head?.any Text.isBlank = false := by
      rw [Option.any_eq_false]
      intro d hd
      simpa using Match.isBlank_compared hkey hliteral d (List.mem_of_head? hd)
    have hm : Match.at? rules none (key.toList ++ c.spelling.toList ++ literal.toList ++ []) = some m := by
      rw [List.append_nil]
      exact Match.at?_compared hkey hr
    rw [Segment.ofText, ← List.append_nil (key.toList ++ c.spelling.toList ++ literal.toList),
      Segment.following_found hstart hm hlength hne, Segment.following]
  obtain ⟨hdropped, hproblem, htokens⟩ :=
    Segment.kept_of_accepts (m := m) rfl (by simpa [m, Match.ofLiteral] using haccepts) 0
  have hkept : ∀ s ∈ [(⟨0, .found m⟩ : Segment)], s.isDropped rules = false := by
    simpa using hdropped
  have hclean : cleanup ((l.kinds key c).map (⟨·, 0⟩)) = (l.kinds key c).map (⟨·, 0⟩) :=
    cleanup_of_isChain ((List.isChain_map _).mpr (Literal.isChain_kinds key c l))
  rw [ofText, String.toList_append, String.toList_append, hsegments]
  simp [Segment.allTokens_of_kept hkept, htokens, hclean, Segment.allProblems, hproblem]

/-- **Formatted instants are read back.** Where what is shown of an instant is all of it, the text is a
literal that stands for that instant, and a query that compares a key with it is in its normal spelling and
one token, which has the instant. -/
theorem Instant.classify_format {x : Instant} (h : x.Fits) :
    Literal.classify x.format.toList = .valid (.period ⟨x, x, true⟩) ∧
      ∀ (rules : Rules) (key : String) (c : Comparison), Match.isKey key.toList = true →
        rules.accepts key = true →
          Text.normalize (key ++ c.spelling ++ x.format) = key ++ c.spelling ++ x.format ∧
          TokenStream.ofText rules (key ++ c.spelling ++ x.format) =
            ⟨[⟨.term (.date key c x), 0⟩], []⟩ := by
  have hliteral : Literal.classify x.format.toList = .valid (.period ⟨x, x, true⟩) := by
    have htimed := WrittenDate.classify_text_of_isReal (d := .timed (x.timestamp h))
      (isReal_timestamp h)
    simpa only [WrittenDate.text, WrittenDate.period, text_timestamp, instant_timestamp] using htimed
  refine ⟨hliteral, ?_⟩
  intro rules key c hkey haccepts
  have hkinds : (Literal.period ⟨x, x, true⟩).kinds key c = [.term (.date key c x)] := by
    cases c <;> rfl
  constructor
  · exact Match.normalize_compared hkey (by simp [hliteral])
  · rw [TokenStream.ofText_compared hkey haccepts hliteral c, hkinds]
    rfl

/-- The last second of a leap day, at least. -/
theorem Instant.classify_format_leap_day :
    let x : Instant := { second := 1709251199, nano := 123000000 }
    let rules : Rules := { validKeys := some ["made"], strictLiterals := true }
    x.Fits ∧ Match.isKey "made".toList = true ∧ rules.accepts "made" = true ∧
      x.format = "2024-02-29T23:59:59.123Z" ∧
      Literal.classify "2024-02-29T23:59:59.123Z".toList = .valid (.period ⟨x, x, true⟩) ∧
      TokenStream.ofText rules "made>=2024-02-29T23:59:59.123Z" =
        ⟨[⟨.term (.date "made" .atLeast x), 0⟩], []⟩ := by
  intro x rules
  have hfits : x.Fits := ⟨by decide +kernel, by decide, by decide⟩
  have hkey : Match.isKey "made".toList = true := by decide
  have haccepts : rules.accepts "made" = true := by decide
  have hformat : x.format = "2024-02-29T23:59:59.123Z" := by decide +kernel
  obtain ⟨hliteral, hquery⟩ := Instant.classify_format hfits
  obtain ⟨-, htokens⟩ := hquery rules "made" .atLeast hkey haccepts
  rw [hformat] at hliteral htokens
  exact ⟨hfits, hkey, haccepts, hformat, hliteral, htokens⟩

end RecordQuery
