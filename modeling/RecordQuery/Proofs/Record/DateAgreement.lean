import RecordQuery.Proofs.Record.Partition
import RecordQuery.Proofs.Time.Reading

/-!
# Dates that queries and records write alike

A date that both can write is the same in both: a record reads it as the start of the period that it is in
a query, so the query for equality with it keeps the records that hold it.
-/

namespace RecordQuery

/-- Text without a blank has none at its ends. -/
theorem Text.trim_of_no_blank {text : List Char} (h : ∀ c ∈ text, isBlank c = false) : trim text = text := by
  have hfront : ∀ {run : List Char}, (∀ c ∈ run, isBlank c = false) → run.dropWhile isBlank = run := by
    intro run hrun
    cases run with
    | nil => rfl
    | cons c run => exact List.dropWhile_cons_of_neg (by simp [hrun c List.mem_cons_self])
  rw [trim, hfront h, hfront (by simpa using h), List.reverse_reverse]

/-- A literal has no blank. -/
theorem Literal.isBlank_of_classify {text : List Char} (h : classify text ≠ .neither) :
    ∀ c ∈ text, Text.isBlank c = false :=
  fun c hc => Text.isBlank_of_blankCodes (by decide +kernel) ((plain_of_classify h).1.chars c hc)

/-- A value that a record reads as the start of a period is equal to the period. -/
theorem Literal.eval_predicate_of_first {key s : String} {record : Json} {p : Period}
    (hp : (period p).IsSound) (hinstant : Record.instant? (.string s) = some p.first)
    (hfield : Record.field? record key = some (.string s)) :
    ((period p).predicate key .colon).eval record = true := by
  have hfirst : p.first.compare p.first = .eq := Int.compare_eq_eq.mpr rfl
  have hlast : p.first.compare p.last ≠ .gt := by
    intro hgreater
    exact absurd hp.1 (Int.not_le.mpr (Int.compare_eq_gt.mp hgreater))
  rw [eval_predicate_of_single hp hfield rfl]
  simp [orders?, hinstant, Comparison.acceptsBetween, Comparison.accepts, hfirst, hlast]

/-- **Queries and records read dates alike.** If text that both can write is a period in a query, a record
that holds the text holds the start of that period, and the query that compares its field with the text for
equality keeps the record. -/
theorem WrittenDate.instant?_and_keeps {s : String} {d : WrittenDate} {p : Period}
    (htext : d.text = s.toList) (hcommon : d.IsCommon)
    (hp : Literal.classify s.toList = .valid (.period p)) :
    Record.instant? (.string s) = some p.first ∧
      ∀ (engine : Engine) (caseSensitive : Bool) (key : String), Match.isKey key.toList = true →
        key ≠ "asc" → key ≠ "desc" →
          ∃ filter,
            RecordFilter.ofParsed caseSensitive (Parsed.ofQuery {} (key ++ ":" ++ s)) engine = .ok filter ∧
            ∀ record, Record.field? record key = some (.string s) → filter.keeps record = true := by
  have hinstant : Record.instant? (.string s) = some p.first := by
    -- What queries accept names a date of the calendar, which is what records need.
    have hreal : d.IsReal := by
      by_contra hnot
      rw [← htext, classify_text_of_not hnot] at hp
      cases hp
    have hperiod : d.period = p := by
      rw [← htext, classify_text_of_isReal hreal] at hp
      simpa using hp
    have hliteral : Literal.classify s.toList ≠ .neither := by simp [hp]
    have hblank := Literal.isBlank_of_classify hliteral
    rw [Record.instant?, Text.trim_of_no_blank hblank, ← htext, read?_text hcommon hreal, hperiod]
  refine ⟨hinstant, ?_⟩
  intro engine caseSensitive key hkey hasc hdesc
  have hmarker : Direction.ofKey? (some key) = none := by
    simp [Direction.ofKey?, Direction.marker, hasc, hdesc]
  obtain ⟨filter, hfilter, hpredicate⟩ :=
    RecordFilter.ofParsed_compared engine caseSensitive hkey hmarker hp .colon
  refine ⟨filter, hfilter, fun record hfield => ?_⟩
  rw [RecordFilter.keeps, hpredicate]
  exact Literal.eval_predicate_of_first (Literal.isSound_of_classify hp) hinstant hfield

/-- The last second of a leap day where clocks are ahead of UTC, in a field of a field. -/
theorem WrittenDate.instant?_and_keeps_parted :
    let s := "2024-02-29T23:59:59.25+05:30"
    let t : Timestamp :=
      { year := 2024, month := 2, day := 29, capital := true, hour := 23, minute := 59
        seconds := .parts 59 { width := 2, digits := 25 }, zone := .parted false 5 30 }
    let x : Instant := { second := 1709231399, nano := 250000000 }
    let record : Json := .object [("made", .object [("at", .string s)])]
    t.text = s.toList ∧ (timed t).IsCommon ∧
      Literal.classify s.toList = .valid (.period ⟨x, x, true⟩) ∧
      Match.isKey "made.at".toList = true ∧ "made.at" ≠ "asc" ∧ "made.at" ≠ "desc" ∧
      Record.field? record "made.at" = some (.string s) ∧ Record.instant? (.string s) = some x ∧
      ∃ filter, RecordFilter.ofParsed false (Parsed.ofQuery {} ("made.at" ++ ":" ++ s)) = .ok filter ∧
        filter.keeps record = true := by
  intro s t x record
  have htext : t.text = s.toList := by decide +kernel
  have hcommon : (timed t).IsCommon := ⟨rfl, by decide, trivial⟩
  have hp : Literal.classify s.toList = .valid (.period ⟨x, x, true⟩) := by decide +kernel
  have hkey : Match.isKey "made.at".toList = true := by decide
  have hfield : Record.field? record "made.at" = some (.string s) := rfl
  obtain ⟨hinstant, hquery⟩ := instant?_and_keeps (d := timed t) htext hcommon hp
  obtain ⟨filter, hfilter, hkeeps⟩ := hquery Regex.engine false "made.at" hkey (by decide) (by decide)
  exact ⟨htext, hcommon, hp, hkey, by decide, by decide, hfield, hinstant, filter, hfilter,
    hkeeps record hfield⟩

end RecordQuery
