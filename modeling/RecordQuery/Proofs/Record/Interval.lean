import RecordQuery.Proofs.Query.Ranged
import RecordQuery.Proofs.Record.Partition

/-!
# Records that a range keeps

A range is a test of its start and a test of its end, and each asks for a scalar of its own. A field
of several scalars can pass both without one scalar between the ends; a field of which no two values
coerce passes exactly if one lies between them.
-/

namespace RecordQuery

/-- The scalars of the named field, none if it is missing. -/
def Record.scalarsAt (record : Json) (key : String) : List Json :=
  (Record.field? record key).elim [] Record.scalars

theorem Test.holds_eq_any (t : Test) (key : String) (record : Json) :
    t.holds (some key) record = (Record.scalarsAt record key).any t.holdsOfScalar := by
  rw [holds, Record.scalarsAt]
  cases Record.field? record key <;> rfl

namespace Literal

/-- Whether a value coerces to the literal's kind and compares in this way with it: for `>=`, that it is
not below its lower bound, and for `<=`, that it is not above its upper bound. -/
def admits (c : Comparison) (v : Json) (l : Literal) : Bool :=
  (l.orders? v).any fun o => c.acceptsBetween o.1 o.2

theorem coerces_of_admits {c : Comparison} {v : Json} {l : Literal} (hl : l.IsSound)
    (h : l.admits c v = true) : l.coerces v = true := by
  rw [← isSome_orders? hl]
  cases horders : l.orders? v with
  | none => simp [admits, horders] at h
  | some o => rfl

/-- What coerces to a kind coerces to every literal of it. -/
theorem coerces_congr {a b : Literal} (h : a.SameKind b) (v : Json) : a.coerces v = b.coerces v := by
  cases a with
  | number x =>
      cases b with
      | number y => rfl
      | period q => cases h
  | period p =>
      cases b with
      | number y => cases h
      | period q => rfl

/-- A comparison with one end of a literal holds if one scalar of the field passes it. -/
theorem eval_predicate_of_end {c : Comparison} (hc : c.isEquality = false) (key : String)
    (l : Literal) (record : Json) :
    (l.predicate key c).eval record = (Record.scalarsAt record key).any (l.admits c) := by
  cases l with
  | number x =>
      have hscalar : (Test.number c x).holdsOfScalar = (number x).admits c :=
        funext fun v => Test.holdsOfScalar_number c x v
      simp [predicate, Predicate.eval, Test.holds_eq_any, hscalar]
  | period p =>
      have hends : (period p).admits c = fun v => (Record.instant? v).any fun y =>
          c.acceptsBetween (y.compare p.first) (y.compare p.last) := by
        funext v
        simp [admits, orders?, Option.any_map]
      rw [hends]
      cases c with
      | colon | equal => cases hc
      | less | atLeast | atMost | greater =>
          simp only [predicate, Predicate.eval, Test.holds_eq_any, Bool.bne_false]
          rfl

/-- The tests that a range makes. -/
def rangePredicate (key : String) (low high : Literal) : Predicate :=
  .node .and (low.predicate key .atLeast) (high.predicate key .atMost) false

theorem eval_rangePredicate (key : String) (low high : Literal) (record : Json) :
    (rangePredicate key low high).eval record = true ↔
      (∃ v ∈ Record.scalarsAt record key, low.admits .atLeast v = true) ∧
        ∃ v ∈ Record.scalarsAt record key, high.admits .atMost v = true := by
  rw [rangePredicate, Predicate.eval, eval_predicate_of_end rfl, eval_predicate_of_end rfl]
  simp [Connective.eval]

/-- If no two values of the field coerce, a single one has to pass both tests. -/
theorem exists_both_of_single {low high : Literal} (hkind : low.SameKind high) (hlow : low.IsSound)
    (hhigh : high.IsSound) {scalars : List Json}
    (hsingle : ∀ v ∈ scalars, ∀ w ∈ scalars, low.coerces v = true → low.coerces w = true → v = w) :
    ((∃ v ∈ scalars, low.admits .atLeast v = true) ∧ ∃ v ∈ scalars, high.admits .atMost v = true) ↔
      ∃ v ∈ scalars, low.admits .atLeast v = true ∧ high.admits .atMost v = true := by
  constructor
  · rintro ⟨⟨v, hv, hfrom⟩, w, hw, hto⟩
    have hcoerces : low.coerces w = true := (coerces_congr hkind w).trans (coerces_of_admits hhigh hto)
    obtain rfl := hsingle v hv w hw (coerces_of_admits hlow hfrom) hcoerces
    exact ⟨v, hv, hfrom, hto⟩
  · rintro ⟨v, hv, hfrom, hto⟩
    exact ⟨⟨v, hv, hfrom⟩, v, hv, hto⟩

/-! ## Queries -/

theorem isChain_rangeKinds (key : String) {low high : Literal} (hkind : low.SameKind high) :
    (rangeKinds key low high).IsChain (Cleanup.clash · · = false) := by
  cases low with
  | number a =>
      cases high with
      | number b => exact .cons_cons rfl (.singleton _)
      | period q => cases hkind
  | period p =>
      cases high with
      | number b => cases hkind
      | period q => exact .cons_cons rfl (.cons_cons rfl (.cons_cons rfl (.singleton _)))

/-- The tree of a range gives the tests of its two ends. -/
theorem ofTree_rangeKinds (engine : Engine) (caseSensitive : Bool) {key : String}
    (hkey : Direction.ofKey? (some key) = none) {low high : Literal} (hkind : low.SameKind high) :
    ∃ t, Tree.ofTokens? (Token.unplaced (rangeKinds key low high)) = some t ∧
      Predicate.ofTree engine caseSensitive t = .ok (some (rangePredicate key low high)) := by
  cases low with
  | number a =>
      cases high with
      | number b =>
          exact ⟨_, rfl, Predicate.ofTree_node_eq_ok.mpr
            ⟨_, _, Predicate.ofTree_field hkey rfl rfl, Predicate.ofTree_field hkey rfl rfl, rfl⟩⟩
      | period q => cases hkind
  | period p =>
      cases high with
      | number b => cases hkind
      | period q =>
          exact ⟨_, rfl, Predicate.ofTree_node_eq_ok.mpr
            ⟨_, _, Predicate.ofTree_field hkey rfl rfl, Predicate.ofTree_field hkey rfl rfl, rfl⟩⟩

end Literal

/-- A query of a single range is read as the tests of its two ends. -/
theorem RecordFilter.ofParsed_ranged (engine : Engine) (caseSensitive : Bool) {key low high : String}
    {a b : Literal}
    (hkey : Match.isKey key.toList = true) (hmarker : Direction.ofKey? (some key) = none)
    (ha : Literal.classify low.toList = .valid a) (hb : Literal.classify high.toList = .valid b)
    (hkind : a.SameKind b) :
    ∃ f, RecordFilter.ofParsed caseSensitive
        (Parsed.ofQuery {} (key ++ ":" ++ low ++ ".." ++ high)) engine = .ok f ∧
      f.predicate = some (Literal.rangePredicate key a b) := by
  have htext : (key ++ ":" ++ low ++ ".." ++ high).toList =
      Match.rangeText key.toList low.toList high.toList := by
    simp [String.toList_append, Match.rangeText]
  have hreads := reads_rangeText none hkey ha hb hkind (show Match.StartsWithStop [] from rfl)
  rw [String.ofList_toList, ← htext] at hreads
  obtain ⟨t, ht, hp⟩ := Literal.ofTree_rangeKinds engine caseSensitive hmarker hkind
  refine ofParsed_of_reads ?_ ?_ hreads (Literal.isChain_rangeKinds key hkind) ht hp
  · simp [htext, Match.rangeText]
  · rw [htext]
    intro c hc
    exact Match.isBlank_of_mem_rangeText hkey (by simp [ha]) (by simp [hb]) hc

/-- **Records that a range keeps.** A range between two literals of one kind keeps a record if its field
has a scalar that coerces to that kind and is not below the lower bound of the first, and one, maybe
another, that is not above the upper bound of the second. Where no two values of the field coerce, it is
one scalar that lies between the bounds. -/
theorem Literal.range_keeps (engine : Engine) (caseSensitive : Bool) {key low high : String} {a b : Literal}
    (hkey : Match.isKey key.toList = true) (hasc : key ≠ "asc") (hdesc : key ≠ "desc")
    (ha : Literal.classify low.toList = .valid a) (hb : Literal.classify high.toList = .valid b)
    (hkind : a.SameKind b) :
    ∃ f, RecordFilter.ofParsed caseSensitive
        (Parsed.ofQuery {} (key ++ ":" ++ low ++ ".." ++ high)) engine = .ok f ∧
      ∀ record,
        (f.keeps record = true ↔
          (∃ v ∈ Record.scalarsAt record key, a.admits .atLeast v = true) ∧
            ∃ v ∈ Record.scalarsAt record key, b.admits .atMost v = true) ∧
        ((∀ v ∈ Record.scalarsAt record key, ∀ w ∈ Record.scalarsAt record key,
            a.coerces v = true → a.coerces w = true → v = w) →
          (f.keeps record = true ↔ ∃ v ∈ Record.scalarsAt record key,
            a.admits .atLeast v = true ∧ b.admits .atMost v = true)) := by
  have hmarker : Direction.ofKey? (some key) = none := by
    simp [Direction.ofKey?, Direction.marker, hasc, hdesc]
  obtain ⟨f, hf, hpredicate⟩ :=
    RecordFilter.ofParsed_ranged engine caseSensitive hkey hmarker ha hb hkind
  refine ⟨f, hf, ?_⟩
  intro record
  have hkeeps : f.keeps record = (rangePredicate key a b).eval record := by
    rw [RecordFilter.keeps, hpredicate]
    rfl
  rw [hkeeps, eval_rangePredicate]
  exact ⟨Iff.rfl, exists_both_of_single hkind (isSound_of_classify ha) (isSound_of_classify hb)⟩

/-- A field of one date and some text, with a day and a month as the ends. -/
theorem Literal.range_keeps_dates :
    let day : Literal := .period (span ⟨2024, 2, 10⟩ ⟨2024, 2, 11⟩)
    let month : Literal := .period (span ⟨2024, 3, 1⟩ ⟨2024, 4, 1⟩)
    let record : Json := .object
      [("made", .array [.string "by hand", .string "2024-03-31T23:00:00Z"])]
    Match.isKey "made".toList = true ∧ "made" ≠ "asc" ∧ "made" ≠ "desc" ∧
      classify "2024-02-10".toList = .valid day ∧ classify "2024-03".toList = .valid month ∧
      day.SameKind month ∧
      (∀ v ∈ Record.scalarsAt record "made", ∀ w ∈ Record.scalarsAt record "made",
        day.coerces v = true → day.coerces w = true → v = w) ∧
      ∃ f, RecordFilter.ofParsed false (Parsed.ofQuery {} ("made" ++ ":" ++ "2024-02-10" ++ ".." ++
          "2024-03")) = .ok f ∧ f.keeps record = true := by
  intro day month record
  have hkey : Match.isKey "made".toList = true := by decide
  have hday : classify "2024-02-10".toList = .valid day := by decide +kernel
  have hmonth : classify "2024-03".toList = .valid month := by decide +kernel
  have hsingle : ∀ v ∈ Record.scalarsAt record "made", ∀ w ∈ Record.scalarsAt record "made",
      day.coerces v = true → day.coerces w = true → v = w := by
    have htext : day.coerces (.string "by hand") = false := by decide +kernel
    have hone : ∀ v ∈ Record.scalarsAt record "made", day.coerces v = true →
        v = .string "2024-03-31T23:00:00Z" := by
      intro v hv hcoerces
      rcases List.mem_pair.mp hv with rfl | rfl
      · simp [htext] at hcoerces
      · rfl
    intro v hv w hw hcv hcw
    rw [hone v hv hcv, hone w hw hcw]
  obtain ⟨f, hf, hkeeps⟩ :=
    range_keeps Regex.engine false hkey (by decide) (by decide) hday hmonth trivial
  exact ⟨hkey, by decide, by decide, hday, hmonth, trivial, hsingle, f, hf,
    ((hkeeps record).2 hsingle).mpr (by decide +kernel)⟩

/-- Two values, one on either side of the range, pass its two tests: `n:3..5` on a field of 1 and 10. -/
theorem Literal.range_keeps_outside :
    let record : Json := .object
      [("n", .array [.number (.integer 1), .number (.integer 10)])]
    ∃ f, RecordFilter.ofParsed false (Parsed.ofQuery {} "n:3..5") = .ok f ∧
      classify "3".toList = .valid (.number (.ofNat 3)) ∧
      classify "5".toList = .valid (.number (.ofNat 5)) ∧ f.keeps record = true ∧
      ¬ ∃ v ∈ Record.scalarsAt record "n",
        (number (.ofNat 3)).admits .atLeast v = true ∧ (number (.ofNat 5)).admits .atMost v = true := by
  intro record
  have ht : (Parsed.ofQuery {} "n:3..5").tree = some (.node .and
      (.leaf ⟨.number "n" .atLeast (.ofNat 3), 0, false⟩)
      (.leaf ⟨.number "n" .atMost (.ofNat 5), 0, false⟩) false) := by decide +kernel
  have hf := RecordFilter.ofParsed_of_tree ht (show Predicate.ofTree Regex.engine false _ = .ok _ from rfl)
  exact ⟨_, hf, by decide +kernel, by decide +kernel, by decide +kernel, by decide +kernel⟩

end RecordQuery
