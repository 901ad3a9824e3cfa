import Mathlib.Tactic.Choose
import RecordQuery.Proofs.Query.Compared
import RecordQuery.Proofs.Record.Preparation
import RecordQuery.Proofs.Text.Words

/-!
# Comparisons partition the records

The six comparisons of a field with one literal. A period is compared by its two ends, and as it does
not end before it starts, a value lies before it, in it or after it.
-/

namespace RecordQuery

/-! ## Two ends -/

namespace Comparison

/-- Whether the comparison holds of a value that compares in these ways with the first and the last
of a period. -/
def acceptsBetween (c : Comparison) (first last : Ordering) : Bool :=
  match c with
  | less | atLeast => c.accepts first
  | atMost | greater => c.accepts last
  | colon | equal => atLeast.accepts first && atMost.accepts last

theorem acceptsBetween_self (c : Comparison) (o : Ordering) : c.acceptsBetween o o = c.accepts o := by
  cases c <;> cases o <;> rfl

/-- Of six answers, one for each comparison, exactly one of those for less, equal and greater is yes,
and these three tell the others. -/
structure Partitions (answer : Comparison → Bool) : Prop where
  one : [less, colon, greater].countP answer = 1
  equal : answer .equal = answer .colon
  atLeast : answer .atLeast = !answer .less
  atMost : answer .atMost = !answer .greater

/-- No value lies both before and after a period. -/
theorem partitions_acceptsBetween {first last : Ordering} (h : first = .lt → last ≠ .gt) :
    Partitions (acceptsBetween · first last) := by
  cases first with
  | lt =>
      cases last with
      | gt => exact absurd rfl (h rfl)
      | lt | eq => exact ⟨rfl, rfl, rfl, rfl⟩
  | eq | gt => cases last <;> exact ⟨rfl, rfl, rfl, rfl⟩

end Comparison

/-! ## Values and literals -/

namespace Literal

/-- The value can be read as one of the literal's kind. What is read as not a number compares with
no number; JSON text has no numeral for it. -/
def coerces (v : Json) : Literal → Bool
  | number _ => (Record.number? v).any (·.place?.isSome)
  | period _ => (Record.instant? v).isSome

/-- How a value compares with the first and the last of a literal; a number is both. -/
def orders? (v : Json) : Literal → Option (Ordering × Ordering)
  | number x => (Record.number? v).bind fun y => (y.compare? x).map fun o => (o, o)
  | period p => (Record.instant? v).map fun y => (y.compare p.first, y.compare p.last)

theorem isSome_orders? {l : Literal} (hl : l.IsSound) (v : Json) :
    (l.orders? v).isSome = l.coerces v := by
  cases l with
  | number x =>
      obtain ⟨i, hi⟩ := Option.isSome_iff_exists.mp hl
      simp only [orders?, coerces]
      cases Record.number? v with
      | none => rfl
      | some y =>
          cases hy : y.place? with
          | none => simp [Number.compare?, hy]
          | some j => simp [Number.compare?_of_place hy hi, hy]
  | period p =>
      simp only [orders?, coerces]
      cases Record.instant? v <;> rfl

/-- No value lies both before and after a literal. -/
theorem last_ne_gt {l : Literal} (hl : l.IsSound) {v : Json} {first last : Ordering}
    (h : l.orders? v = some (first, last)) (hfirst : first = .lt) : last ≠ .gt := by
  subst hfirst
  rintro rfl
  cases l with
  | number x =>
      obtain ⟨y, -, horders⟩ := Option.bind_eq_some_iff.mp h
      obtain ⟨o, -, heq⟩ := Option.map_eq_some_iff.mp horders
      obtain ⟨rfl, hgreater⟩ := Prod.mk.inj heq
      cases hgreater
  | period p =>
      obtain ⟨y, -, heq⟩ := Option.map_eq_some_iff.mp h
      obtain ⟨hbefore, hafter⟩ := Prod.mk.inj heq
      have hlt : y.place < p.first.place := Int.compare_eq_lt.mp hbefore
      have hgt : p.last.place < y.place := Int.compare_eq_gt.mp hafter
      have hle := hl.1
      omega

end Literal

/-! ## Tests -/

namespace Test

variable {key : String} {record field scalar : Json}

theorem holds_of_missing (t : Test) (h : Record.field? record key = none) :
    t.holds (some key) record = false := by
  simp [holds, h]

/-- A field that is a single scalar passes if the scalar does. -/
theorem holds_of_single (t : Test) (hfield : Record.field? record key = some field)
    (hscalar : Record.scalars field = [scalar]) :
    t.holds (some key) record = t.holdsOfScalar scalar := by
  simp [holds, hfield, holdsOfField, hscalar]

theorem holdsOfScalar_number (c : Comparison) (x : Number) (v : Json) :
    (number c x).holdsOfScalar v =
      ((Literal.number x).orders? v).any fun o => c.acceptsBetween o.1 o.2 := by
  simp only [holdsOfScalar, Literal.orders?]
  cases Record.number? v with
  | none => rfl
  | some y => cases h : y.compare? x <;> simp [Comparison.holds, h, Comparison.acceptsBetween_self]

end Test

/-! ## Filters -/

/-- The tests that a comparison with a literal makes. -/
def Literal.predicate (key : String) (c : Comparison) : Literal → Predicate
  | .number x => .leaf (some key) (.number c x) false
  | .period p =>
    match c with
    | .less | .atLeast => .leaf (some key) (.date c p.first) false
    | .atMost | .greater => .leaf (some key) (.date c p.last) false
    | .colon | .equal =>
      if p.timed then .leaf (some key) (.date c p.first) false
      else .node .and (.leaf (some key) (.date .atLeast p.first) false)
        (.leaf (some key) (.date .atMost p.last) false) false

variable {key : String} {record field scalar : Json} {l : Literal}

theorem Literal.eval_predicate_of_missing (h : Record.field? record key = none) (c : Comparison)
    (l : Literal) : (l.predicate key c).eval record = false := by
  cases l with
  | number x => simp [predicate, Predicate.eval, Test.holds_of_missing _ h]
  | period p =>
      cases c <;> cases hp : p.timed <;>
        simp [predicate, hp, Predicate.eval, Test.holds_of_missing _ h, Connective.eval]

theorem Literal.eval_predicate_of_single (hl : l.IsSound)
    (hfield : Record.field? record key = some field) (hscalar : Record.scalars field = [scalar])
    (c : Comparison) :
    (l.predicate key c).eval record =
      (l.orders? scalar).any fun o => c.acceptsBetween o.1 o.2 := by
  cases l with
  | number x =>
      rw [← Test.holdsOfScalar_number, ← Test.holds_of_single _ hfield hscalar]
      simp [predicate, Predicate.eval]
  | period p =>
      have htest : ∀ (c : Comparison) (x : Instant), (Test.date c x).holds (some key) record =
          (Record.instant? scalar).any fun y => c.accepts (y.compare x) :=
        fun c x => Test.holds_of_single _ hfield hscalar
      have hends : ((period p).orders? scalar).any (fun o => c.acceptsBetween o.1 o.2) =
          (Record.instant? scalar).any fun y =>
            c.acceptsBetween (y.compare p.first) (y.compare p.last) := by
        simp [orders?, Option.any_map]
      rw [hends]
      cases c with
      | less | atLeast | atMost | greater =>
          simp [predicate, Predicate.eval, htest, Comparison.acceptsBetween]
      | colon | equal =>
          cases hp : p.timed with
          | true =>
              simp [predicate, hp, Predicate.eval, htest, hl.2 hp,
                Comparison.acceptsBetween_self]
          | false =>
              simp only [predicate, hp, Bool.false_eq_true, if_false, Predicate.eval, htest,
                Comparison.acceptsBetween]
              cases Record.instant? scalar <;> simp [Connective.eval]

/-- The test of a single field. -/
theorem Predicate.ofTree_field {engine : Engine} {caseSensitive : Bool}
    (hkey : Direction.ofKey? (some key) = none) {x : Term} (hx : x.key? = some key) {test : Test}
    (htest : Test.ofTerm engine caseSensitive 0 x = .ok test) :
    Predicate.ofTree engine caseSensitive (.leaf ⟨x, 0, false⟩) =
      .ok (some (.leaf (some key) test false)) := by
  refine Predicate.ofTree_leaf_eq_ok.mpr (.inr ⟨?_, test, htest, by rw [hx]⟩)
  simp [Term.isSortMarker, hx, hkey]

/-- The tree of a comparison gives these tests. -/
theorem Literal.ofTree_kinds (engine : Engine) (caseSensitive : Bool)
    (hkey : Direction.ofKey? (some key) = none) (c : Comparison) (l : Literal) :
    ∃ t, Tree.ofTokens? (Token.unplaced (l.kinds key c)) = some t ∧
      Predicate.ofTree engine caseSensitive t = .ok (some (l.predicate key c)) := by
  cases l with
  | number x => exact ⟨_, rfl, Predicate.ofTree_field hkey rfl rfl⟩
  | period p =>
      cases c with
      | less | atLeast | atMost | greater => exact ⟨_, rfl, Predicate.ofTree_field hkey rfl rfl⟩
      | colon | equal =>
          cases hp : p.timed with
          | true =>
              simp only [kinds, Match.dateTokens, predicate, hp]
              exact ⟨_, rfl, Predicate.ofTree_field hkey rfl rfl⟩
          | false =>
              simp only [kinds, Match.dateTokens, predicate, hp]
              exact ⟨_, rfl, Predicate.ofTree_node_eq_ok.mpr
                ⟨_, _, Predicate.ofTree_field hkey rfl rfl, Predicate.ofTree_field hkey rfl rfl, rfl⟩⟩

/-- A query without a blank is prepared from the tokens that it is read as. -/
theorem RecordFilter.ofParsed_of_reads {engine : Engine} {caseSensitive : Bool} {query : String}
    {kinds : List Token.Kind} {t : Tree} {p : Option Predicate} (hne : query.toList ≠ [])
    (hblank : ∀ c ∈ query.toList, Text.isBlank c = false)
    (hreads : Segment.Reads {} none query.toList [] kinds)
    (hchain : kinds.IsChain (Cleanup.clash · · = false))
    (ht : Tree.ofTokens? (Token.unplaced kinds) = some t)
    (hp : Predicate.ofTree engine caseSensitive t = .ok p) :
    ∃ f, RecordFilter.ofParsed caseSensitive (Parsed.ofQuery {} query) engine = .ok f ∧
      f.predicate = p := by
  have htree := hreads.tree hchain
  rw [ht, String.ofList_toList] at htree
  obtain ⟨u, hu, rfl⟩ := Option.map_eq_some_iff.mp htree
  have hquery : (Parsed.ofQuery {} query).tree = some u := by
    rw [← hu, Parsed.ofQuery, Text.normalize_of_no_blank hne hblank]
    rfl
  exact ⟨_, ofParsed_of_tree hquery (Predicate.ofTree_of_unplaced hp), rfl⟩

/-- The query that compares the field of a key with a literal is read as its tests. -/
theorem RecordFilter.ofParsed_compared (engine : Engine) (caseSensitive : Bool) {key literal : String}
    {l : Literal} (hkey : Match.isKey key.toList = true) (hmarker : Direction.ofKey? (some key) = none)
    (hl : Literal.classify literal.toList = .valid l) (c : Comparison) :
    ∃ f, RecordFilter.ofParsed caseSensitive
        (Parsed.ofQuery {} (key ++ c.spelling ++ literal)) engine = .ok f ∧
      f.predicate = some (l.predicate key c) := by
  have htext : (key ++ c.spelling ++ literal).toList =
      key.toList ++ c.spelling.toList ++ literal.toList := by
    simp [String.toList_append]
  have hliteral : Literal.classify literal.toList ≠ .neither := by simp [hl]
  have hreads := reads_compared none c hkey hl (show Match.StartsWithStop [] from rfl)
  rw [String.ofList_toList, ← htext] at hreads
  obtain ⟨t, ht, hp⟩ := Literal.ofTree_kinds engine caseSensitive hmarker c l
  refine ofParsed_of_reads ?_ ?_ hreads (Literal.isChain_kinds key c l) ht hp
  · simp [htext, Match.ne_nil_of_isKey hkey]
  · rw [htext]
    exact Match.isBlank_compared hkey hliteral

/-- **Comparisons partition the records.** Of the queries that compare a field with one literal, those
for less, equal and greater keep a record one at a time if the field is a single value that coerces
to the literal's kind, the other three keep the rest or the same, and if the field is missing or does
not coerce, none of the six keeps the record. -/
theorem Literal.comparisons_partition (engine : Engine) (caseSensitive : Bool) {key literal : String}
    {l : Literal} (hkey : Match.isKey key.toList = true) (hasc : key ≠ "asc") (hdesc : key ≠ "desc")
    (hl : Literal.classify literal.toList = .valid l) :
    ∃ filter : Comparison → RecordFilter,
      (∀ c, RecordFilter.ofParsed caseSensitive
        (Parsed.ofQuery {} (key ++ c.spelling ++ literal)) engine = .ok (filter c)) ∧
      ∀ record,
        (Record.field? record key = none → ∀ c, (filter c).keeps record = false) ∧
        ∀ field scalar, Record.field? record key = some field → Record.scalars field = [scalar] →
          (l.coerces scalar = true → Comparison.Partitions fun c => (filter c).keeps record) ∧
          (l.coerces scalar = false → ∀ c, (filter c).keeps record = false) := by
  have hmarker : Direction.ofKey? (some key) = none := by
    simp [Direction.ofKey?, Direction.marker, hasc, hdesc]
  choose filter hfilter hpredicate using
    RecordFilter.ofParsed_compared engine caseSensitive hkey hmarker hl
  have hkeeps : ∀ c record, (filter c).keeps record = (l.predicate key c).eval record := by
    intro c record
    rw [RecordFilter.keeps, hpredicate c]
    rfl
  have hsound := isSound_of_classify hl
  refine ⟨filter, hfilter, ?_⟩
  intro record
  simp only [hkeeps]
  refine ⟨fun hmissing c => eval_predicate_of_missing hmissing c l, ?_⟩
  intro field scalar hfield hscalar
  simp only [eval_predicate_of_single hsound hfield hscalar, ← isSome_orders? hsound]
  cases horders : l.orders? scalar with
  | none => exact ⟨by simp, by simp⟩
  | some ends =>
      refine ⟨fun _ => ?_, by simp⟩
      exact Comparison.partitions_acceptsBetween fun hfirst =>
        last_ne_gt hsound horders hfirst

/-- The last day of a leap February, compared with that month. -/
theorem Literal.comparisons_partition_month :
    let month : Literal := .period (span ⟨2024, 2, 1⟩ ⟨2024, 3, 1⟩)
    let record : Json := .object [("made", .array [.string " 2024-02-29T12:00:00+01:00 "])]
    Match.isKey "made".toList = true ∧ "made" ≠ "asc" ∧ "made" ≠ "desc" ∧
      classify "2024-02".toList = .valid month ∧
      ∃ filter : Comparison → RecordFilter,
        (∀ c, RecordFilter.ofParsed false (Parsed.ofQuery {} ("made" ++ c.spelling ++ "2024-02")) =
          .ok (filter c)) ∧
        Comparison.Partitions fun c => (filter c).keeps record := by
  have hmonth : classify "2024-02".toList =
      .valid (.period (span ⟨2024, 2, 1⟩ ⟨2024, 3, 1⟩)) := by decide +kernel
  have hkey : Match.isKey "made".toList = true := by decide
  refine ⟨hkey, by decide, by decide, hmonth, ?_⟩
  obtain ⟨filter, hfilter, hkeeps⟩ :=
    comparisons_partition Regex.engine false hkey (by decide) (by decide) hmonth
  refine ⟨filter, hfilter, ?_⟩
  exact ((hkeeps _).2 _ _ rfl rfl).1 (by decide +kernel)

end RecordQuery
