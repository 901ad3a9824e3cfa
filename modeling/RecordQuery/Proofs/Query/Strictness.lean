import RecordQuery.Proofs.Query.AllowList

/-!
# Literals that are reported

Strictness decides whether numerals and dates that name no value are reported, and nothing else: the
same text is matched, the same tokens are taken back, and every other report stands as it is.
-/

namespace RecordQuery

/-- The same rules, strict about literals or not. -/
def Rules.strictly (rules : Rules) (strict : Bool) : Rules := { rules with strictLiterals := strict }

/-- A comparison with a literal that names no value, or a range with a bound that names none. -/
inductive Match.Misnamed : (key : String) → (value : String) → List Char → Prop
  | comparison {key literal : List Char} {c : Comparison}
      (hbad : Literal.classify literal = .malformed) :
      Misnamed (String.ofList key) (String.ofList literal) (key ++ c.spelling.toList ++ literal)
  | range {key low high : List Char} {c : Comparison} (hc : c.isEquality = true)
      (hbad : Literal.classify low = .malformed ∨ Literal.classify high = .malformed) :
      Misnamed (String.ofList key) (String.ofList (low ++ '.' :: '.' :: high))
        (key ++ c.spelling.toList ++ (low ++ '.' :: '.' :: high))

/-- Only such text is matched as malformed. -/
theorem Match.Spells.misnamed {rules : Rules} {piece : List Char} {m : Match}
    (h : Match.Spells rules piece m) (hm : m.reading = .malformed) :
    ∃ key, m.key = some key ∧ Match.Misnamed key m.value piece := by
  cases h with
  | malformed hkey hbad => exact ⟨_, rfl, .comparison hbad⟩
  | malformedRange hkey hc hbad => exact ⟨_, rfl, .range hc hbad⟩
  | _ => cases hm

namespace Segment

variable {rules : Rules}

/-! ## One segment -/

/-- The report of a literal that names no value, under a key that is allowed. -/
def misnamed? (rules : Rules) (s : Segment) : Option Problem :=
  match s.content with
  | .found { key, value, reading := .malformed, .. } =>
    if key.all rules.accepts then some ⟨.invalidLiteral key value, s.position⟩ else none
  | _ => none

/-- What is matched does not depend on strictness. -/
theorem ofText_strictly (rules : Rules) (strict : Bool) (text : List Char) :
    Segment.ofText (rules.strictly strict) text = Segment.ofText rules text :=
  following_congr_rules (show (rules.strictly strict).defaultKey = rules.defaultKey from rfl) none 0 0
    text

/-- What is added and taken back does not, either. -/
theorem allTokens_strictly (rules : Rules) (strict : Bool) (segments : List Segment) :
    allTokens (rules.strictly strict) segments = allTokens rules segments := rfl

theorem misnamed?_of_malformed {s : Segment} {m : Match} (hm : s.content = .found m)
    (hreading : m.reading = .malformed) (hkey : m.key.all rules.accepts = true) :
    s.misnamed? rules = some ⟨.invalidLiteral m.key m.value, s.position⟩ := by
  obtain ⟨position, content⟩ := s
  obtain ⟨length, key, value, reading⟩ := m
  obtain rfl : content = _ := hm
  obtain rfl : reading = _ := hreading
  exact if_pos hkey

/-- A strict reading reports what a lenient one does, and literals that name no value. The name of a
report tells which. -/
theorem filter_problem?_strictly (rules : Rules) (s : Segment) :
    (s.problem? (rules.strictly true)).filter (·.cause.name != "invalid_literal") =
        s.problem? (rules.strictly false) ∧
      (s.problem? (rules.strictly true)).filter (·.cause.name == "invalid_literal") =
        s.misnamed? rules := by
  obtain ⟨position, content⟩ := s
  cases content with
  | blank | skipped run => exact ⟨rfl, rfl⟩
  | found m =>
      obtain ⟨length, key, value, reading⟩ := m
      have haccepts : ∀ strict, (rules.strictly strict).accepts = rules.accepts := fun _ => rfl
      simp only [problem?, misnamed?, haccepts]
      cases key with
      | none => cases reading <;> exact ⟨rfl, rfl⟩
      | some k =>
          cases hk : rules.accepts k with
          | false => cases reading <;> simp [Option.filter, hk, Problem.Cause.name]
          | true =>
              cases reading <;> simp [Option.filter, hk, Rules.strictly, Problem.Cause.name]

end Segment

namespace TokenStream

/-- What a strict reading of a text with these segments owes to the lenient one. -/
structure OnlyReports (rules : Rules) (text : List Char) (segments : List Segment)
    (strict lenient : TokenStream) : Prop where
  tokens : strict.tokens = lenient.tokens
  /-- Without the reports of literals, the reports are those of the lenient reading, in order. -/
  problems : strict.problems.filter (·.cause.name != "invalid_literal") = lenient.problems
  lenient : ∀ p ∈ lenient.problems, p.cause.name ≠ "invalid_literal"
  /-- Each literal that names no value is reported once, under a key that is allowed, and nothing else is at
  its place. -/
  reported : ∀ s ∈ segments, ∀ m, s.content = .found m → m.reading = .malformed →
    m.key.all rules.accepts = true →
      strict.problems.filter (·.position == s.position) =
        [⟨.invalidLiteral m.key m.value, s.position⟩]
  /-- No other literal is reported. -/
  reports : strict.problems.filter (·.cause.name == "invalid_literal") =
    segments.filterMap (Segment.misnamed? rules)
  /-- What is malformed is a comparison or range that is spelled at its place. -/
  misnamed : ∀ s ∈ segments, ∀ m, s.content = .found m → m.reading = .malformed →
    ∃ front piece rest key, text = front ++ piece ++ rest ∧ s.position = front.length ∧
      m.key = some key ∧ Match.Misnamed key m.value piece

/-- Both readings report on the same segments. -/
theorem problems_strictly (rules : Rules) (strict : Bool) (text : String) :
    (ofText (rules.strictly strict) text).problems =
      (Segment.ofText rules text.toList).filterMap (Segment.problem? (rules.strictly strict)) := by
  rw [← Segment.ofText_strictly rules strict]
  rfl

/-- **Strictness only adds reports.** A strict reading yields the tokens of the lenient one, and reports
besides, once and at its place, each comparison or range whose literal names no value. -/
theorem onlyReports_ofText (rules : Rules) (text : String) :
    OnlyReports rules text.toList (Segment.ofText rules text.toList)
      (ofText (rules.strictly true) text) (ofText (rules.strictly false) text) := by
  have hsplits : Segment.Splits rules none 0 text.toList (Segment.ofText rules text.toList) :=
    Segment.splits_following rules none 0 text.toList
  have hlenient : (ofText (rules.strictly true) text).problems.filter
      (·.cause.name != "invalid_literal") = (ofText (rules.strictly false) text).problems := by
    rw [problems_strictly, problems_strictly, List.filter_filterMap]
    exact List.filterMap_congr fun s _ => (Segment.filter_problem?_strictly rules s).1
  refine ⟨?_, hlenient, ?_, ?_, ?_, ?_⟩
  · rw [ofText, ofText, Segment.ofText_strictly, Segment.ofText_strictly, Segment.allTokens_strictly,
      Segment.allTokens_strictly]
  · intro p hp
    rw [← hlenient] at hp
    simpa using (List.mem_filter.mp hp).2
  · intro s hs m hm hreading hkey
    have hreported : s.problem? (rules.strictly true) =
        some ⟨.invalidLiteral m.key m.value, s.position⟩ := by
      have hmisnamed := Segment.misnamed?_of_malformed hm hreading hkey
      rw [← (Segment.filter_problem?_strictly rules s).2] at hmisnamed
      exact (Option.filter_eq_some_iff.mp hmisnamed).1
    rw [problems_strictly]
    show (Segment.allProblems (rules.strictly true) _).filter _ = _
    rw [Segment.filter_allProblems hsplits.ordered.pairwise hs, hreported]
    rfl
  · rw [problems_strictly, List.filter_filterMap]
    exact List.filterMap_congr fun s _ => (Segment.filter_problem?_strictly rules s).2
  · intro s hs m hm hreading
    obtain ⟨front, piece, rest, htext, hposition, -, hspells⟩ := hsplits.spells_of_found hs hm
    obtain ⟨key, hkey, hmisnamed⟩ := hspells.misnamed hreading
    exact ⟨front, piece, rest, key, htext, by rw [hposition, Nat.zero_add], hkey, hmisnamed⟩

/-- A month that is none, behind a negation that goes with it. -/
theorem onlyReports_ofText_month :
    let text := "a -made:2024-13"
    (ofText (Rules.strictly {} true) text).problems.filter (·.cause.name == "invalid_literal") =
        [⟨.invalidLiteral (some "made") "2024-13", 3⟩] ∧
      (ofText (Rules.strictly {} true) text).tokens = (ofText (Rules.strictly {} false) text).tokens := by
  intro text
  have honly := onlyReports_ofText {} text
  have hmisnamed : (Segment.ofText {} text.toList).filterMap (Segment.misnamed? {}) =
      [⟨.invalidLiteral (some "made") "2024-13", 3⟩] := by decide +kernel
  exact ⟨honly.reports.trans hmisnamed, honly.tokens⟩

end TokenStream

end RecordQuery
