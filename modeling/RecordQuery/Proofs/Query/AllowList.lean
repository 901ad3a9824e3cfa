import RecordQuery.Proofs.Query.Lossless

/-!
# Keys that are not allowed

An allow-list does not change what is matched in a text, only what becomes of it: a match whose key is
left out yields no token and is reported, once and as nothing else. So the terms are those that stand
without the list, but for the terms under the keys that it leaves out.
-/

namespace RecordQuery

/-- The same rules for every key. -/
def Rules.anyKey (rules : Rules) : Rules := { rules with validKeys := none }

variable {rules : Rules}

theorem Rules.all_accepts_anyKey (key : Option String) : key.all rules.anyKey.accepts = true := by
  cases key <;> rfl

/-- Whether the rules accept the key of a term, or it has none. -/
def Rules.allows (rules : Rules) (x : Term) : Bool := x.key?.all rules.accepts

/-- A term is allowed if its key stands in the list of keys, or it has none, or there is no list. -/
theorem Rules.allows_iff {x : Term} :
    rules.allows x = true ↔ ∀ key ∈ x.key?, ∀ keys ∈ rules.validKeys, key ∈ keys := by
  simp only [allows, Option.all_eq_true, accepts_iff, Option.mem_def]

/-- The terms of a match have its key, the default key included. -/
theorem Match.Spells.key?_of_mem_terms {piece : List Char} {m : Match}
    (h : Match.Spells rules piece m) {x : Term} (hx : x ∈ m.reading.terms) : x.key? = m.key := by
  cases h with
  | openGroup | negatedGroup _ | closeGroup | negation _ | joiner _ => cases hx
  | malformed _ _ | malformedRange _ _ _ => cases hx
  | unkeyed _ | keyed _ _ | number _ _ | date _ _ _ _ =>
      obtain rfl := List.mem_singleton.mp hx
      rfl
  | period _ _ _ _ | periodRange _ _ _ _ | numberRange _ _ _ _ =>
      rcases List.mem_pair.mp hx with rfl | rfl
      · rfl
      · rfl

namespace Segment

/-! ## Matches -/

/-- Of the rules, only the default key decides what is matched. -/
theorem following_congr_rules {rules rules' : Rules} (h : rules.defaultKey = rules'.defaultKey)
    (before : Option Char) (position skip : Nat) (text : List Char) :
    following rules before position skip text = following rules' before position skip text := by
  have hcontent : Content.at rules = Content.at rules' := by
    funext before text
    rw [Content.at, Content.at, Match.at?, Match.at?, Match.term?, Match.term?, Match.unkeyed?,
      Match.unkeyed?, h]
  induction text generalizing before position skip with
  | nil => cases skip <;> rfl
  | cons c text ih =>
      cases skip with
      | zero => rw [following, following, hcontent, ih]
      | succ skip => rw [following, following, ih]

theorem ofText_anyKey (rules : Rules) (text : List Char) :
    Segment.ofText rules.anyKey text = Segment.ofText rules text :=
  following_congr_rules (show rules.anyKey.defaultKey = rules.defaultKey from rfl) none 0 0 text

/-! ## Terms -/

/-- The terms of a segment are those under keys that are allowed. -/
theorem termTokens_eq_filter {text : List Char} {s : Segment} (hs : s ∈ Segment.ofText rules text) :
    s.termTokens rules =
      (s.termTokens rules.anyKey).filter fun t => t.term?.any rules.allows := by
  have hkey : ∀ m, s.content = .found m → ∀ x ∈ m.reading.terms, x.key? = m.key := by
    intro m hm x hx
    obtain ⟨_, hspells⟩ := exists_spells hs hm
    exact hspells.key?_of_mem_terms hx
  obtain ⟨position, content⟩ := s
  cases content with
  | blank | skipped run => rfl
  | found m =>
      have hallows : ∀ x ∈ m.reading.terms, rules.allows x = m.key.all rules.accepts :=
        fun x hx => by rw [Rules.allows, hkey m rfl x hx]
      simp only [termTokens, terms, Rules.all_accepts_anyKey, if_true, List.filter_map]
      cases haccepted : m.key.all rules.accepts with
      | true =>
          have hkept : m.reading.terms.filter rules.allows = m.reading.terms :=
            List.filter_eq_self.mpr fun x hx => (hallows x hx).trans haccepted
          exact congrArg _ hkept.symm
      | false =>
          have hnone : m.reading.terms.filter rules.allows = [] :=
            List.filter_eq_nil_iff.mpr fun x hx => by simp [hallows x hx, haccepted]
          exact congrArg (List.map _) hnone.symm

/-! ## Problems -/

/-- The report of a match whose key is not allowed. -/
def rejection? (rules : Rules) (s : Segment) : Option Problem :=
  match s.content with
  | .found m =>
    (m.key.filter (!rules.accepts ·)).map fun key => ⟨.invalidKey key m.value, s.position⟩
  | _ => none

theorem problem?_of_rejected {s : Segment} {m : Match} {key : String} (hm : s.content = .found m)
    (hkey : m.key = some key) (hrejected : rules.accepts key = false) :
    s.problem? rules = some ⟨.invalidKey key m.value, s.position⟩ := by
  obtain ⟨position, content⟩ := s
  obtain rfl : content = .found m := hm
  have hfilter : m.key.filter (!rules.accepts ·) = some key := by
    simp [hkey, Option.filter, hrejected]
  simp only [problem?, hfilter]

/-- Only a skipped run is reported as text that is no token, and only a match for its key. -/
theorem filter_problem? (s : Segment) :
    (s.problem? rules).filter (·.cause.name == "syntax") =
        (match s.content with
          | .skipped run => some ⟨.unexpected (String.ofList run), s.position⟩
          | _ => none) ∧
      (s.problem? rules).filter (·.cause.name == "invalid_key") = s.rejection? rules := by
  obtain ⟨position, content⟩ := s
  cases content with
  | blank | skipped run => exact ⟨rfl, rfl⟩
  | found m =>
      simp only [problem?, rejection?]
      cases m.key.filter (!rules.accepts ·) with
      | some key => exact ⟨rfl, rfl⟩
      | none =>
          cases m.reading with
          | tokens kinds => exact ⟨rfl, rfl⟩
          | malformed => cases rules.strictLiterals <;> exact ⟨rfl, rfl⟩

/-- The problems at the place of a segment are those of the segment. -/
theorem filter_allProblems {segments : List Segment}
    (h : segments.Pairwise (·.position < ·.position)) {s : Segment} (hs : s ∈ segments) :
    (allProblems rules segments).filter (·.position == s.position) =
      (s.problem? rules).toList := by
  have hother : ∀ others : List Segment, (∀ u ∈ others, u.position ≠ s.position) →
      (allProblems rules others).filter (·.position == s.position) = [] := by
    intro others hne
    refine List.filter_eq_nil_iff.mpr ?_
    intro p hp
    obtain ⟨u, hu, hproblem⟩ := List.mem_filterMap.mp hp
    simpa [position_of_problem? hproblem] using hne u hu
  obtain ⟨front, back, rfl⟩ := List.append_of_mem hs
  obtain ⟨-, hback, hfront⟩ := List.pairwise_append.mp h
  have hbefore := hother front fun u hu => Nat.ne_of_lt (hfront u hu s (List.mem_cons_self ..))
  have hafter := hother back fun u hu => Nat.ne_of_gt ((List.pairwise_cons.mp hback).1 u hu)
  have hsplit : allProblems rules (front ++ s :: back) =
      allProblems rules front ++ ((s.problem? rules).toList ++ allProblems rules back) := by
    rw [allProblems, List.filterMap_append, List.filterMap_cons]
    cases s.problem? rules <;> rfl
  rw [hsplit, List.filter_append, List.filter_append, hbefore, hafter, List.nil_append,
    List.append_nil]
  refine List.filter_eq_self.mpr ?_
  intro p hp
  simp [position_of_problem? (Option.mem_toList.mp hp)]

end Segment

namespace TokenStream

/-- Only the tokens of terms have a term. -/
theorem filter_any_term (allows : Term → Bool) (tokens : List Token) :
    (tokens.filter (·.kind.isTerm)).filter (fun t => t.term?.any allows) =
      tokens.filter fun t => t.term?.any allows := by
  rw [List.filter_filter]
  apply List.filter_congr
  rintro ⟨kind, position⟩ -
  cases kind <;> simp [Token.term?, Token.Kind.isTerm]

/-- The terms under the rules are those under every key whose keys the rules accept. -/
theorem filter_isTerm_anyKey (rules : Rules) (text : String) :
    (ofText rules text).tokens.filter (·.kind.isTerm) =
      (ofText rules.anyKey text).tokens.filter fun t => t.term?.any rules.allows := by
  rw [← filter_any_term, filter_isTerm_ofText, filter_isTerm_ofText, Segment.ofText_anyKey,
    List.filter_flatMap]
  exact List.flatMap_congr fun s hs => Segment.termTokens_eq_filter hs

/-- What the keys that are allowed make of a text with these segments, against what is read from it
under every key. -/
structure KeysChecked (rules : Rules) (segments : List Segment) (stream free : TokenStream) :
    Prop where
  /-- No term has a key that is not allowed. -/
  allowed : ∀ t ∈ stream.tokens, ∀ x, t.kind = .term x → rules.allows x = true
  /-- The terms are those under the keys that are allowed, in the same order and places. -/
  terms : stream.tokens.filter (·.kind.isTerm) =
    free.tokens.filter fun t => t.term?.any rules.allows
  /-- Text that is no token is reported alike. -/
  unexpected : stream.problems.filter (·.cause.name == "syntax") =
    free.problems.filter (·.cause.name == "syntax")
  /-- A match with a key that is not allowed is reported as that, and nothing else is at its place. -/
  rejected : ∀ s ∈ segments, ∀ m key, s.content = .found m → m.key = some key →
    rules.accepts key = false →
      stream.problems.filter (·.position == s.position) =
        [⟨.invalidKey key m.value, s.position⟩]
  /-- No other match is reported for its key. -/
  rejections : stream.problems.filter (·.cause.name == "invalid_key") =
    segments.filterMap (Segment.rejection? rules)

/-- **Only allowed keys pass.** The rules let through the terms under the keys that they allow and no
others, and report each match under another key once. -/
theorem keysChecked_ofText (rules : Rules) (text : String) :
    KeysChecked rules (Segment.ofText rules text.toList) (ofText rules text)
      (ofText rules.anyKey text) := by
  have hsegments := Segment.ofText_anyKey rules text.toList
  have hproblems : ∀ (rules : Rules) (p : Problem → Bool), (ofText rules text).problems.filter p =
      (Segment.ofText rules text.toList).filterMap fun s => (s.problem? rules).filter p :=
    fun rules p => List.filter_filterMap
  have hterms := filter_isTerm_anyKey rules text
  refine ⟨?_, hterms, ?_, ?_, ?_⟩
  · intro t ht x hx
    have hmem : t ∈ (ofText rules text).tokens.filter (·.kind.isTerm) :=
      List.mem_filter.mpr ⟨ht, by rw [hx]; rfl⟩
    rw [hterms] at hmem
    simpa [Token.term?, hx] using (List.mem_filter.mp hmem).2
  · rw [hproblems, hproblems, hsegments]
    refine List.filterMap_congr ?_
    intro s hs
    rw [(Segment.filter_problem? s).1, (Segment.filter_problem? s).1]
  · intro s hs m key hm hkey hrejected
    have hordered : (Segment.ofText rules text.toList).Pairwise (·.position < ·.position) :=
      (Segment.splits_following rules none 0 text.toList).ordered.pairwise
    show (Segment.allProblems rules _).filter _ = _
    rw [Segment.filter_allProblems hordered hs, Segment.problem?_of_rejected hm hkey hrejected]
    rfl
  · rw [hproblems]
    exact List.filterMap_congr fun s _ => (Segment.filter_problem? s).2

end TokenStream

end RecordQuery
