import RecordQuery.Proofs.Query.CalendarPeriod
import RecordQuery.Proofs.Record.Partition

/-!
# The records of a period

A comparison with a year, a month or a day keeps the records whose date lies before it, in it or after
it. A period ends with its last whole millisecond: what is left of its last second is taken to come after
it.
-/

namespace RecordQuery

/-! ## Dates of instants -/

namespace Instant

/-- The instant comes after the last whole millisecond of its date, in the last second or in the leap
second behind it. -/
def AfterMilliseconds (x : Instant) : Prop := x.second % 86400 = 86399 ∧ 999000000 < x.nano

instance (x : Instant) : Decidable x.AfterMilliseconds := inferInstanceAs (Decidable (_ ∧ _))

theorem compare_midnight_eq_lt (x : Instant) (d : Date) :
    x.compare (midnight d) = .lt ↔ x.date.dayNumber < d.dayNumber := by
  have hnano := x.nano_lt
  rw [dayNumber_date, compare, Int.compare_eq_lt]
  simp only [place, midnight]
  omega

theorem compare_beforeMidnight_eq_gt (x : Instant) (d : Date) :
    x.compare (beforeMidnight d) = .gt ↔
      d.dayNumber ≤ x.date.dayNumber ∨
        x.date.dayNumber + 1 = d.dayNumber ∧ x.AfterMilliseconds := by
  have hnano := x.nano_lt
  rw [dayNumber_date, compare, Int.compare_eq_gt]
  simp only [place, beforeMidnight, AfterMilliseconds]
  omega

end Instant

namespace CalendarPeriod

variable {P : CalendarPeriod} {x : Instant}

/-! ## Instants before, in and after a period -/

/-- The instant lies in the period, but after its last whole millisecond. -/
def Outlasts (P : CalendarPeriod) (x : Instant) : Prop :=
  P.side x.date = .eq ∧ P.side (Literal.dayAfter x.date) = .gt ∧ x.AfterMilliseconds

instance (P : CalendarPeriod) (x : Instant) : Decidable (P.Outlasts x) :=
  inferInstanceAs (Decidable (_ ∧ _ ∧ _))

/-- The first of the literal comes after the instants of the dates before the period. -/
theorem compare_first_eq_lt (hP : P.IsValid) :
    x.compare (Literal.span P.first P.next).first = .lt ↔ P.side x.date = .lt := by
  rw [side_eq_lt hP x.isValid_date]
  exact x.compare_midnight_eq_lt P.first

/-- The last of the literal comes before the instants of the dates after the period, and before what is
left of the period. -/
theorem compare_last_eq_gt (hP : P.IsValid) :
    x.compare (Literal.span P.first P.next).last = .gt ↔
      P.side x.date = .gt ∨ P.Outlasts x := by
  have hnonempty := ((side_eq_eq hP hP.first).mp P.side_first).2
  rw [Outlasts, side_eq_eq hP x.isValid_date, side_eq_gt hP x.isValid_date,
    side_eq_gt hP (Literal.isValid_dayAfter _), Literal.dayNumber_dayAfter]
  refine (x.compare_beforeMidnight_eq_gt P.next).trans ?_
  by_cases hpast : x.AfterMilliseconds
  · simp only [hpast, and_true]
    omega
  · simp only [hpast, and_false, or_false]

/-! ## Records -/

/-- **A period selects its records.** Of the records with a single instant in the field, the query for
less keeps those whose date lies before the period, the one for equal those whose date lies in it, but
not what is left of it behind its last whole millisecond, and the one for greater keeps that and those
whose date lies after it. -/
theorem keeps_compared (engine : Engine) (caseSensitive : Bool) {key : String}
    (hkey : Match.isKey key.toList = true) (hasc : key ≠ "asc") (hdesc : key ≠ "desc") (hP : P.IsValid) :
    ∃ filter : Comparison → RecordFilter,
      (∀ c, RecordFilter.ofParsed caseSensitive
        (Parsed.ofQuery {} (key ++ c.spelling ++ P.text)) engine = .ok (filter c)) ∧
      ∀ record field scalar x, Record.field? record key = some field →
        Record.scalars field = [scalar] → Record.instant? scalar = some x →
          ((filter .less).keeps record = true ↔ P.side x.date = .lt) ∧
          ((filter .colon).keeps record = true ↔ P.side x.date = .eq ∧ ¬ P.Outlasts x) ∧
          ((filter .greater).keeps record = true ↔ P.side x.date = .gt ∨ P.Outlasts x) := by
  have hmarker : Direction.ofKey? (some key) = none := by
    simp [Direction.ofKey?, Direction.marker, hasc, hdesc]
  have hliteral := classify_text hP
  choose filter hfilter hpredicate using
    RecordFilter.ofParsed_compared engine caseSensitive hkey hmarker hliteral
  refine ⟨filter, hfilter, ?_⟩
  intro record field scalar x hfield hscalar hx
  have hkeeps : ∀ c, (filter c).keeps record =
      c.acceptsBetween (x.compare (Literal.span P.first P.next).first)
        (x.compare (Literal.span P.first P.next).last) := by
    intro c
    have heval := Literal.eval_predicate_of_single (Literal.isSound_of_classify hliteral) hfield
      hscalar c
    simp only [Literal.orders?, hx, Option.map_some, Option.any_some] at heval
    rw [← heval, RecordFilter.keeps, hpredicate c]
    rfl
  rw [hkeeps, hkeeps, hkeeps]
  have hbefore := compare_first_eq_lt (x := x) hP
  have hafter := compare_last_eq_gt (x := x) hP
  refine ⟨?_, ?_, ?_⟩
  · show (x.compare _ == .lt) = true ↔ _
    rw [beq_iff_eq, hbefore]
  · show (x.compare _ != .lt && x.compare _ != .gt) = true ↔ _
    rw [Bool.and_eq_true, bne_iff_ne, bne_iff_ne, ne_eq, ne_eq, hbefore, hafter]
    cases P.side x.date <;> simp
  · show (x.compare _ == .gt) = true ↔ _
    rw [beq_iff_eq, hafter]

/-- The last half-hour of a leap February, which clocks an hour ahead of UTC show in March. -/
theorem keeps_compared_offset :
    let record : Json := .object [("made", .string "2024-03-01T00:30:00.123456789+01:00")]
    Match.isKey "made".toList = true ∧ "made" ≠ "asc" ∧ "made" ≠ "desc" ∧ (month 2024 2).IsValid ∧
      ∃ filter : Comparison → RecordFilter,
        (∀ c, RecordFilter.ofParsed false
          (Parsed.ofQuery {} ("made" ++ c.spelling ++ (month 2024 2).text)) = .ok (filter c)) ∧
        (filter .less).keeps record = false ∧ (filter .colon).keeps record = true ∧
          (filter .greater).keeps record = false := by
  intro record
  have hkey : Match.isKey "made".toList = true := by decide
  have hvalid : (month 2024 2).IsValid := by simp [IsValid]
  have hx : Record.instant? (.string "2024-03-01T00:30:00.123456789+01:00") =
      some { second := 1709249400, nano := 123456789 } := by decide +kernel
  obtain ⟨filter, hfilter, hkeeps⟩ := keeps_compared Regex.engine false hkey (by decide) (by decide) hvalid
  obtain ⟨hless, hcolon, hgreater⟩ := hkeeps record _ _ _ rfl rfl hx
  refine ⟨hkey, by decide, by decide, hvalid, filter, hfilter, ?_, ?_, ?_⟩
  · rw [Bool.eq_false_iff, ne_eq, hless]
    decide +kernel
  · rw [hcolon]
    decide +kernel
  · rw [Bool.eq_false_iff, ne_eq, hgreater]
    decide +kernel

/-- What is left of the last second of a year, behind its last millisecond, is taken to come after the
year. -/
theorem keeps_compared_remainder :
    let scalar : Json := .string "2024-12-31T23:59:59.9995Z"
    let record : Json := .object [("made", scalar)]
    ((Record.instant? scalar).map fun x => (year 2024).side x.date) = some .eq ∧
      ∃ inYear afterYear : RecordFilter,
        RecordFilter.ofParsed false (Parsed.ofQuery {} "made:2024") = .ok inYear ∧
        RecordFilter.ofParsed false (Parsed.ofQuery {} "made>2024") = .ok afterYear ∧
        inYear.keeps record = false ∧ afterYear.keeps record = true := by
  intro scalar record
  have hyear : Literal.classify "2024".toList =
      .valid (.period (Literal.span ⟨2024, 1, 1⟩ ⟨2025, 1, 1⟩)) := by decide +kernel
  have hkey : Match.isKey "made".toList = true := by decide
  obtain ⟨inYear, hin, hinKeeps⟩ :=
    RecordFilter.ofParsed_compared Regex.engine false hkey rfl hyear .colon
  obtain ⟨afterYear, hafter, hafterKeeps⟩ :=
    RecordFilter.ofParsed_compared Regex.engine false hkey rfl hyear .greater
  refine ⟨by decide +kernel, inYear, afterYear, hin, hafter, ?_, ?_⟩
  · rw [RecordFilter.keeps, hinKeeps]
    decide +kernel
  · rw [RecordFilter.keeps, hafterKeeps]
    decide +kernel

end CalendarPeriod

end RecordQuery
