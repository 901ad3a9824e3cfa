import RecordQuery.Proofs.Query.Conditions
import RecordQuery.Proofs.Record.Preparation

/-!
# Patterns that are none

A query cannot be prepared for records if one of its tests is a regular expression with a pattern that is
none. Sort markers test nothing, so their patterns do not matter; and a side that is taken out of the tree
hides no fault on the other. Of several faults the first is reported, in the order in which the tests stand
in the query.
-/

namespace RecordQuery

/-- The condition is a test with a pattern that is none, and this is its report. -/
structure Condition.Faulty (engine : Engine) (caseSensitive : Bool) (c : Condition) (e : InvalidRegex) :
    Prop where
  /-- The condition is a regular expression, in any field or in one. -/
  regex : ∃ key, c.term = .text key .regex e.pattern
  /-- Its key is not that of a sort marker. -/
  tests : c.term.isSortMarker = false
  invalid : engine (!caseSensitive) e.pattern = none
  position : e.position = c.position

/-- The report of a condition, if it is faulty. -/
def Condition.fault? (engine : Engine) (caseSensitive : Bool) (c : Condition) : Option InvalidRegex :=
  match c.term with
  | .text key .regex pattern =>
    if (Term.text key .regex pattern).isSortMarker then none
    else match engine (!caseSensitive) pattern with
      | some _ => none
      | none => some ⟨pattern, c.position⟩
  | _ => none

variable {engine : Engine} {caseSensitive : Bool} {c : Condition} {e : InvalidRegex}

theorem Condition.fault?_eq_some_iff :
    c.fault? engine caseSensitive = some e ↔ c.Faulty engine caseSensitive e := by
  obtain ⟨term, position, negated⟩ := c
  constructor
  · intro h
    unfold fault? at h
    split at h
    · next key pattern hterm =>
        obtain rfl : term = _ := hterm
        split at h
        · cases h
        · next hmarker =>
            split at h
            · cases h
            · next hnone =>
                obtain rfl := Option.some.inj h
                exact ⟨⟨key, rfl⟩, by simpa using hmarker, hnone, rfl⟩
    · cases h
  · rintro ⟨⟨key, hterm⟩, htests, hinvalid, hposition⟩
    obtain rfl : term = _ := hterm
    obtain ⟨pattern, place⟩ := e
    obtain rfl : place = position := hposition
    simp [fault?, htests, hinvalid]

theorem Condition.fault?_eq_none_iff :
    c.fault? engine caseSensitive = none ↔ ∀ e, ¬ c.Faulty engine caseSensitive e := by
  rw [Option.eq_none_iff_forall_ne_some]
  exact forall_congr' fun e => not_congr fault?_eq_some_iff

namespace Predicate

/-- A test that cannot be made is that of a faulty condition. -/
theorem ofTerm_eq_error_iff (htests : c.term.isSortMarker = false) :
    Test.ofTerm engine caseSensitive c.position c.term = .error e ↔
      c.fault? engine caseSensitive = some e := by
  obtain ⟨term, position, negated⟩ := c
  cases term with
  | number key o x => simp [Test.ofTerm, Condition.fault?]
  | date key o x => simp [Test.ofTerm, Condition.fault?]
  | text key form s =>
      cases form with
      | word | phrase => simp [Test.ofTerm, Condition.fault?]
      | regex =>
          have htests : (Term.text key .regex s).isSortMarker = false := htests
          cases hr : engine (!caseSensitive) s with
          | none => simp [Test.ofTerm, Condition.fault?, htests, hr]
          | some r => simp [Test.ofTerm, Condition.fault?, htests, hr]

theorem ofTree_leaf_eq_error :
    ofTree engine caseSensitive (.leaf c) = .error e ↔ c.fault? engine caseSensitive = some e := by
  rw [ofTree]
  cases hmarker : c.term.isSortMarker with
  | true =>
      have hnone : c.fault? engine caseSensitive = none := by
        rw [Condition.fault?_eq_none_iff]
        rintro e ⟨-, htests, -, -⟩
        rw [hmarker] at htests
        cases htests
      simp [hnone]
  | false =>
      rw [← ofTerm_eq_error_iff hmarker]
      cases Test.ofTerm engine caseSensitive c.position c.term with
      | error e' => simp [bind, Except.bind]
      | ok test => simp [bind, Except.bind, pure, Except.pure]

/-- The right side is looked at only if the left side is sound, even if nothing is left of that. -/
theorem ofTree_node_eq_error {o : Connective} {l r : Tree} {n : Bool} :
    ofTree engine caseSensitive (.node o l r n) = .error e ↔
      ofTree engine caseSensitive l = .error e ∨
        (∃ left, ofTree engine caseSensitive l = .ok left) ∧ ofTree engine caseSensitive r = .error e := by
  rw [ofTree]
  cases hl : ofTree engine caseSensitive l with
  | error e' => simp [bind, Except.bind]
  | ok left =>
      cases hr : ofTree engine caseSensitive r with
      | error e' => simp [bind, Except.bind]
      | ok right => simp [bind, Except.bind, pure, Except.pure]

/-- A tree fails with the first fault among its conditions, and only with that. -/
theorem ofTree_eq_error_iff {t : Tree} (within : Bool) :
    ofTree engine caseSensitive t = .error e ↔
      (t.conditionsWithin within).findSome? (·.fault? engine caseSensitive) = some e := by
  induction t generalizing within e with
  | leaf c =>
      -- Whether the condition is negated does not matter.
      rw [ofTree_leaf_eq_error, Tree.conditionsWithin, List.findSome?_singleton]
      exact Iff.rfl
  | node o l r n ihl ihr =>
      have hok : (∃ left, ofTree engine caseSensitive l = .ok left) ↔
          (l.conditionsWithin (within || n)).findSome? (·.fault? engine caseSensitive) = none := by
        rw [Option.eq_none_iff_forall_ne_some]
        simp only [ne_eq, ← ihl (within || n)]
        cases ofTree engine caseSensitive l with
        | error e' => simp
        | ok left => simp
      rw [ofTree_node_eq_error, hok, ihl (within || n), ihr (within || n), Tree.conditionsWithin,
        List.findSome?_append, Option.or_eq_some_iff]

end Predicate

namespace RecordFilter

theorem ofParsed_eq_error_of_tree {query : Parsed} {t : Tree} (ht : query.tree = some t) :
    ofParsed caseSensitive query engine = .error e ↔ Predicate.ofTree engine caseSensitive t = .error e := by
  rw [ofParsed, ht]
  cases hp : Predicate.ofTree engine caseSensitive t with
  | error e' => simp [hp, bind, Except.bind]
  | ok p => simp [hp, bind, Except.bind, pure, Except.pure]

/-- The condition that is reported is faulty, and those in front of it are not. -/
theorem ofParsed_eq_error {query : Parsed} :
    ofParsed caseSensitive query engine = .error e ↔
      ∃ t, query.tree = some t ∧ ∃ front c back, t.conditions = front ++ c :: back ∧
        c.Faulty engine caseSensitive e ∧ ∀ d ∈ front, ∀ e', ¬ d.Faulty engine caseSensitive e' := by
  cases ht : query.tree with
  | none => simp [ofParsed_of_no_tree ht]
  | some t =>
      rw [ofParsed_eq_error_of_tree ht, Predicate.ofTree_eq_error_iff false,
        List.findSome?_eq_some_iff]
      simp only [Condition.fault?_eq_some_iff, Condition.fault?_eq_none_iff, Option.some.injEq,
        exists_eq_left']
      rfl

/-- **Faulty patterns are reported, and nothing else.** A query cannot be prepared exactly if one of its
tests has a pattern that is none, wherever it stands in the tree. The report is on the first such test, which
is the one with the first place in the query. -/
theorem ofParsed_faults (engine : Engine) (caseSensitive : Bool) (query : Parsed) :
    ((∃ e, ofParsed caseSensitive query engine = .error e) ↔
        ∃ t, query.tree = some t ∧ ∃ c ∈ t.conditions, ∃ e, c.Faulty engine caseSensitive e) ∧
      (∀ e, ofParsed caseSensitive query engine = .error e ↔
        ∃ t, query.tree = some t ∧ ∃ front c back, t.conditions = front ++ c :: back ∧
          c.Faulty engine caseSensitive e ∧ ∀ d ∈ front, ∀ e', ¬ d.Faulty engine caseSensitive e') ∧
      ∀ rules q, query = Parsed.ofQuery rules q → ∀ e, ofParsed caseSensitive query engine = .error e →
        ∀ t, query.tree = some t → ∀ c ∈ t.conditions, ∀ e', c.Faulty engine caseSensitive e' →
          e.position ≤ e'.position := by
  refine ⟨?_, fun e => ofParsed_eq_error, ?_⟩
  · constructor
    · rintro ⟨e, he⟩
      obtain ⟨t, ht, front, c, back, hconditions, hfaulty, -⟩ := ofParsed_eq_error.mp he
      exact ⟨t, ht, c, by simp [hconditions], e, hfaulty⟩
    · rintro ⟨t, ht, c, hc, e, hfaulty⟩
      cases hfirst : t.conditions.findSome? (·.fault? engine caseSensitive) with
      | some e' =>
          exact ⟨e', (ofParsed_eq_error_of_tree ht).mpr ((Predicate.ofTree_eq_error_iff false).mpr hfirst)⟩
      | none =>
          have hsound := List.findSome?_eq_none_iff.mp hfirst c hc
          exact absurd hfaulty (Condition.fault?_eq_none_iff.mp hsound e)
  · rintro rules q rfl e he t ht c hc e' hfaulty'
    obtain ⟨t', ht', front, first, back, hconditions, hfaulty, hsound⟩ := ofParsed_eq_error.mp he
    obtain rfl := Option.some.inj (ht.symm.trans ht')
    have hordered := Parsed.pairwise_tree ht
    rw [hconditions] at hordered hc
    rw [hfaulty.position, hfaulty'.position]
    rcases List.mem_append.mp hc with hfront | hback
    · exact absurd hfaulty' (hsound c hfront e')
    · rcases List.mem_cons.mp hback with rfl | hback
      · exact Nat.le_refl _
      · have hafter := List.rel_of_pairwise_cons (List.pairwise_append.mp hordered).2.1 hback
        exact hafter.elim Nat.le_of_lt fun h => Nat.le_of_eq h.1

/-- Behind a marker with an open bracket, a test with one, in a negated group of which one side goes; a second
fault is not reported. -/
theorem ofParsed_faults_marker :
    let query := Parsed.ofQuery {} "-(asc:/(/ OR title:/a[/) /)/"
    ofParsed false query = .error ⟨"a[", 13⟩ ∧
      ∃ t, query.tree = some t ∧ ∃ c ∈ t.conditions, c.Faulty Regex.engine false ⟨")", 25⟩ ∧ 13 ≤ 25 := by
  intro query
  obtain ⟨t, ht, hconditions⟩ : ∃ t, query.tree = some t ∧ t.conditions =
      [⟨.text (some "asc") .regex "(", 2, true⟩, ⟨.text (some "title") .regex "a[", 13, true⟩,
        ⟨.text none .regex ")", 25, false⟩] :=
    ⟨.node .and (.node .or (.leaf ⟨.text (some "asc") .regex "(", 2, false⟩)
      (.leaf ⟨.text (some "title") .regex "a[", 13, false⟩) true)
      (.leaf ⟨.text none .regex ")", 25, false⟩) false, by decide +kernel, by decide +kernel⟩
  obtain ⟨-, hreport, hplace⟩ := ofParsed_faults Regex.engine false query
  have hlast : (⟨.text none .regex ")", 25, false⟩ : Condition).Faulty Regex.engine false ⟨")", 25⟩ :=
    ⟨⟨none, rfl⟩, rfl, by decide +kernel, rfl⟩
  have herror : ofParsed false query = .error ⟨"a[", 13⟩ := by
    refine (hreport ⟨"a[", 13⟩).mpr ⟨t, ht, [⟨.text (some "asc") .regex "(", 2, true⟩], _, _, hconditions,
      ⟨⟨_, rfl⟩, by decide, by decide +kernel, rfl⟩, ?_⟩
    intro d hd e' hfaulty
    obtain rfl := List.mem_singleton.mp hd
    cases hfaulty.tests
  have hmem : (⟨.text none .regex ")", 25, false⟩ : Condition) ∈ t.conditions := by simp [hconditions]
  exact ⟨herror, t, ht, _, hmem, hlast, hplace {} _ rfl _ herror t ht _ hmem _ hlast⟩

end RecordFilter

end RecordQuery
