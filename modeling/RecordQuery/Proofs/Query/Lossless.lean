import RecordQuery.Proofs.Query.Cleanup
import RecordQuery.Proofs.Query.Segmentation
import RecordQuery.Query.Parsed

/-!
# Reading loses nothing

What the tokens and problems of a text owe to its segments. Every match that is kept yields its terms
at its own place, and no other terms come out; from this the order of the places follows. The main
statement is `TokenStream.lossless_ofText`.
-/

namespace RecordQuery

/-- The lower and the upper bound of one range or period. -/
inductive Term.Bounds : Term → Term → Prop
  | number {key : String} {low high : Number} :
      Bounds (.number key .atLeast low) (.number key .atMost high)
  | date {key : String} {low high : Instant} :
      Bounds (.date key .atLeast low) (.date key .atMost high)

/-- A match is a sign or joiner, or a malformed literal, or it stands for one term, or for the two
bounds of a range or period, the latter in a group of their own. -/
inductive Match.Reading.Yields : Match.Reading → List Term → Prop
  | sign {k : Token.Kind} (hk : k.isTerm = false) : Yields (.tokens [k]) []
  | malformed : Yields .malformed []
  | single {x : Term} : Yields (.tokens [.term x]) [x]
  | bounds {x y : Term} (hxy : Term.Bounds x y) : Yields (.tokens [.term x, .term y]) [x, y]
  | group {x y : Term} (hxy : Term.Bounds x y) :
      Yields (.tokens [.openGroup false, .term x, .term y, .closeGroup]) [x, y]

theorem Match.Spells.yields {rules : Rules} {piece : List Char} {m : Match}
    (h : Match.Spells rules piece m) : m.reading.Yields m.reading.terms := by
  cases h with
  | openGroup | negatedGroup _ | closeGroup | negation _ | joiner _ => exact .sign rfl
  | malformed _ _ | malformedRange _ _ _ => exact .malformed
  | unkeyed _ | keyed _ _ | number _ _ | date _ _ _ _ => exact .single
  | period _ _ _ _ | periodRange _ _ _ _ => exact .group .date
  | numberRange _ _ _ _ => exact .bounds .number

/-- Of the terms of one match, any two are all of them, and bounds of each other. -/
theorem Match.Reading.Yields.pairwise {r : Match.Reading} {terms : List Term} (h : r.Yields terms) :
    terms.Pairwise fun x y => terms = [x, y] ∧ Term.Bounds x y := by
  cases h with
  | sign hk => exact List.Pairwise.nil
  | malformed => exact List.Pairwise.nil
  | single => exact List.pairwise_singleton ..
  | bounds hxy => exact List.pairwise_pair.mpr ⟨rfl, hxy⟩
  | group hxy => exact List.pairwise_pair.mpr ⟨rfl, hxy⟩

/-- A match that stands for a term of text is spelled by that term, with its key if the text gives
one, else under the default key. -/
theorem Match.Spells.text_cases {rules : Rules} {piece : List Char} {m : Match} {key : Option String}
    {form : Form} {s : String} (h : Match.Spells rules piece m)
    (hx : Term.text key form s ∈ m.reading.terms) :
    key = rules.defaultKey ∧ piece = form.enclose s.toList ∨
      ∃ k, key = some k ∧ piece = k.toList ++ ':' :: form.enclose s.toList := by
  cases h <;> simp [Reading.terms, sign, ofValue, ofLiteral, periodTokens] at hx
  case unkeyed v hv =>
    obtain ⟨rfl, rfl, rfl⟩ := hx
    exact Or.inl ⟨rfl, by simp [Value.spelled]⟩
  case keyed k v hkey hv =>
    obtain ⟨rfl, rfl, rfl⟩ := hx
    exact Or.inr ⟨_, rfl, by simp [Value.spelled]⟩

namespace Segment

variable {rules : Rules}

/-- The terms that a segment yields: those of a match whose key is accepted. -/
def terms (rules : Rules) (s : Segment) : List Term :=
  match s.content with
  | .found m => if m.key.all rules.accepts then m.reading.terms else []
  | _ => []

/-- The tokens of these terms, all at the place of the segment. -/
def termTokens (rules : Rules) (s : Segment) : List Token :=
  (s.terms rules).map fun x => ⟨.term x, s.position⟩

theorem filter_isTerm_map (kinds : List Token.Kind) (position : Nat) :
    (kinds.map (⟨·, position⟩ : Token.Kind → Token)).filter (·.kind.isTerm) =
      (Match.Reading.tokens kinds).terms.map fun x => ⟨.term x, position⟩ := by
  induction kinds with
  | nil => rfl
  | cons k kinds ih =>
      rw [List.map_cons, List.filter_cons, ih]
      cases k <;> simp [Token.Kind.isTerm, Match.Reading.terms]

theorem filter_isTerm_tokens (s : Segment) :
    (s.tokens rules).filter (·.kind.isTerm) = s.termTokens rules := by
  obtain ⟨position, content⟩ := s
  cases content with
  | blank | skipped _ => rfl
  | found m =>
      obtain ⟨length, key, value, reading⟩ := m
      cases reading with
      | malformed => simp [tokens, termTokens, terms, Match.Reading.terms]
      | tokens kinds =>
          by_cases hkey : key.all rules.accepts = true
          · simp only [tokens, termTokens, terms, if_pos hkey]
            exact filter_isTerm_map kinds position
          · simp only [tokens, termTokens, terms, if_neg hkey]
            rfl

theorem position_of_mem_tokens {s : Segment} {t : Token} (h : t ∈ s.tokens rules) :
    t.position = s.position := by
  unfold tokens at h
  split at h
  · split at h
    · obtain ⟨k, -, rfl⟩ := List.mem_map.mp h
      rfl
    · simp at h
  · simp at h

theorem tokens_of_isDropped {s : Segment} (h : s.isDropped rules = true) : s.tokens rules = [] := by
  obtain ⟨position, content⟩ := s
  cases content with
  | blank | skipped _ => rfl
  | found m =>
      obtain ⟨length, key, value, reading⟩ := m
      cases reading with
      | malformed => rfl
      | tokens kinds =>
          have hkey : key.all rules.accepts = false := by simpa [isDropped] using h
          simp [tokens, hkey]

/-! ## The tokens of all segments -/

theorem extend_sublist (before : List Token) (s : Segment) :
    (extend rules before s).reverse.Sublist (before.reverse ++ s.tokens rules) := by
  unfold extend
  split
  · next hdropped =>
      rw [tokens_of_isDropped hdropped, List.append_nil, List.reverse_sublist]
      split
      · exact List.sublist_cons_self ..
      · exact List.Sublist.refl _
  · simp

theorem filter_isTerm_extend (before : List Token) (s : Segment) :
    (extend rules before s).reverse.filter (·.kind.isTerm) =
      before.reverse.filter (·.kind.isTerm) ++ s.termTokens rules := by
  rw [← filter_isTerm_tokens, ← List.filter_append]
  unfold extend
  split
  · next hdropped =>
      rw [tokens_of_isDropped hdropped, List.append_nil]
      split
      · simp [Token.Kind.isTerm]
      · rfl
  · simp

theorem allTokens_snoc (segments : List Segment) (s : Segment) :
    allTokens rules (segments ++ [s]) =
      (extend rules (allTokens rules segments).reverse s).reverse := by
  simp [allTokens]

/-- Tokens are only taken back, never moved or added. -/
theorem allTokens_sublist (segments : List Segment) :
    (allTokens rules segments).Sublist (segments.flatMap (tokens rules)) := by
  induction segments using List.reverseRecOn with
  | nil => exact List.Sublist.refl _
  | append_singleton segments s ih =>
      rw [allTokens_snoc, List.flatMap_append, List.flatMap_singleton]
      refine (extend_sublist _ s).trans ?_
      rw [List.reverse_reverse]
      exact ih.append (List.Sublist.refl _)

/-- What is taken back is no term. -/
theorem filter_isTerm_allTokens (segments : List Segment) :
    (allTokens rules segments).filter (·.kind.isTerm) = segments.flatMap (termTokens rules) := by
  induction segments using List.reverseRecOn with
  | nil => rfl
  | append_singleton segments s ih =>
      rw [allTokens_snoc, filter_isTerm_extend, List.reverse_reverse, ih, List.flatMap_append,
        List.flatMap_singleton]

/-! ## Places -/

theorem Ordered.pairwise {position length : Nat} {segments : List Segment}
    (h : Ordered position length segments) : segments.Pairwise (·.position < ·.position) :=
  List.pairwise_map.mp h.increasing

theorem mem_terms_of_mem_termTokens {s : Segment} {t : Token} (h : t ∈ s.termTokens rules) :
    ∃ m x, s.content = .found m ∧ x ∈ m.reading.terms ∧ t = ⟨.term x, s.position⟩ := by
  obtain ⟨x, hx, rfl⟩ := List.mem_map.mp h
  unfold terms at hx
  split at hx
  · next m hm =>
      split at hx
      · exact ⟨m, x, hm, hx, rfl⟩
      · simp at hx
  · simp at hx

theorem pairwise_tokens {segments : List Segment}
    (h : segments.Pairwise (·.position < ·.position)) :
    (segments.flatMap (tokens rules)).Pairwise (·.position ≤ ·.position) := by
  rw [List.pairwise_flatMap]
  refine ⟨?_, ?_⟩
  · intro s _
    refine List.pairwise_of_forall_mem_list ?_
    intro t ht u hu
    rw [position_of_mem_tokens ht, position_of_mem_tokens hu]
  · refine h.imp ?_
    intro s s' hlt t ht u hu
    rw [position_of_mem_tokens ht, position_of_mem_tokens hu]
    exact Nat.le_of_lt hlt

theorem position_of_problem? {s : Segment} {p : Problem} (h : s.problem? rules = some p) :
    p.position = s.position := by
  unfold problem? at h
  split at h
  · simp at h
  · obtain rfl := Option.some.inj h
    rfl
  · split at h
    · obtain rfl := Option.some.inj h
      rfl
    · split at h
      · obtain rfl := Option.some.inj h
        rfl
      · simp at h
    · simp at h

theorem pairwise_allProblems {segments : List Segment}
    (h : segments.Pairwise (·.position < ·.position)) :
    (allProblems rules segments).Pairwise (·.position < ·.position) := by
  rw [allProblems, List.pairwise_filterMap]
  refine h.imp ?_
  intro s s' hlt p hp q hq
  rw [position_of_problem? hp, position_of_problem? hq]
  exact hlt

/-- A match among the segments is spelled by a piece of the text. -/
theorem exists_spells {text : List Char} {s : Segment} {m : Match} (hs : s ∈ Segment.ofText rules text)
    (hm : s.content = .found m) : ∃ piece, Match.Spells rules piece m := by
  obtain ⟨_, piece, _, _, _, _, hspells⟩ := (splits_following rules none 0 text).spells_of_found hs hm
  exact ⟨piece, hspells⟩

/-- Terms at one place stem from one match. -/
theorem pairwise_termTokens {segments : List Segment}
    (h : segments.Pairwise (·.position < ·.position))
    (hyields : ∀ s ∈ segments, ∀ m, s.content = .found m → m.reading.Yields m.reading.terms) :
    (segments.flatMap (termTokens rules)).Pairwise fun t u => t.position = u.position →
      ∃ m x y, ⟨t.position, .found m⟩ ∈ segments ∧ m.reading.terms = [x, y] ∧ t.kind = .term x ∧
        u.kind = .term y ∧ Term.Bounds x y := by
  rw [List.pairwise_flatMap]
  refine ⟨?_, ?_⟩
  · intro s hs
    unfold termTokens
    rw [List.pairwise_map]
    unfold terms
    split
    · next m hm =>
        split
        · have hmem : (⟨s.position, .found m⟩ : Segment) ∈ segments := by
            rw [← hm]
            exact hs
          refine (hyields s hs m hm).pairwise.imp ?_
          intro x y hxy _
          exact ⟨m, x, y, hmem, hxy.1, rfl, rfl, hxy.2⟩
        · simp
    · simp
  · refine h.imp ?_
    intro s s' hlt t ht u hu heq
    obtain ⟨_, _, _, _, rfl⟩ := mem_terms_of_mem_termTokens ht
    obtain ⟨_, _, _, _, rfl⟩ := mem_terms_of_mem_termTokens hu
    exact absurd heq (Nat.ne_of_lt hlt)

end Segment

namespace TokenStream

/-- What the tokens and problems of a text owe to its segments. -/
structure Lossless (rules : Rules) (text : List Char) (segments : List Segment)
    (stream : TokenStream) : Prop where
  /-- Blanks, matches and skipped runs cover the text end to end. -/
  splits : Segment.Splits rules none 0 text segments
  /-- Each match that is kept yields its terms at its place, and there are no other terms. -/
  terms : stream.tokens.filter (·.kind.isTerm) = segments.flatMap (Segment.termTokens rules)
  /-- Each match stands for one term or for two bounds, but for signs, joiners and malformed
  literals. -/
  counted : ∀ s ∈ segments, ∀ m, s.content = .found m → m.reading.Yields m.reading.terms
  /-- A term of text spells its match, but for a key that the text does not give. -/
  spelled : ∀ key form s position, ⟨.term (.text key form s), position⟩ ∈ stream.tokens →
    ∃ m front piece rest, ⟨position, .found m⟩ ∈ segments ∧ text = front ++ piece ++ rest ∧
      front.length = position ∧ piece.length = m.length ∧
      (key = rules.defaultKey ∧ piece = form.enclose s.toList ∨
        ∃ k, key = some k ∧ piece = k.toList ++ ':' :: form.enclose s.toList)
  tokensOrdered : (stream.tokens.map Token.position).Pairwise (· ≤ ·)
  tokensInText : ∀ t ∈ stream.tokens, t.position < text.length
  problemsOrdered : (stream.problems.map Problem.position).Pairwise (· < ·)
  problemsInText : ∀ p ∈ stream.problems, p.position < text.length
  /-- Two terms at one place are the bounds that one match stands for. -/
  shared : (stream.tokens.filter (·.kind.isTerm)).Pairwise fun t u => t.position = u.position →
    ∃ m x y, ⟨t.position, .found m⟩ ∈ segments ∧ m.reading.terms = [x, y] ∧ t.kind = .term x ∧
      u.kind = .term y ∧ Term.Bounds x y

variable {rules : Rules}

/-- The tokens that come out are among those that the segments yield, in the same order. -/
theorem tokens_sublist (text : String) :
    (ofText rules text).tokens.Sublist
      ((Segment.ofText rules text.toList).flatMap (Segment.tokens rules)) :=
  (cleanup_sublist _).trans (Segment.allTokens_sublist _)

theorem filter_isTerm_ofText (text : String) :
    (ofText rules text).tokens.filter (·.kind.isTerm) =
      (Segment.ofText rules text.toList).flatMap (Segment.termTokens rules) :=
  (filter_isTerm_cleanup _).trans (Segment.filter_isTerm_allTokens _)

/-- A term is one of a match at its place. -/
theorem exists_found_of_mem {text : String} {x : Term} {position : Nat}
    (ht : ⟨.term x, position⟩ ∈ (ofText rules text).tokens) :
    ∃ m, ⟨position, .found m⟩ ∈ Segment.ofText rules text.toList ∧ x ∈ m.reading.terms := by
  have hterm : ⟨.term x, position⟩ ∈ (ofText rules text).tokens.filter (·.kind.isTerm) :=
    List.mem_filter.mpr ⟨ht, rfl⟩
  rw [filter_isTerm_ofText] at hterm
  obtain ⟨⟨i, content⟩, hs, hmem⟩ := List.mem_flatMap.mp hterm
  obtain ⟨m, y, rfl, hy, heq⟩ := Segment.mem_terms_of_mem_termTokens hmem
  obtain ⟨rfl, rfl⟩ : x = y ∧ position = i := by simpa using heq
  exact ⟨m, hs, hy⟩

theorem mem_segments_of_mem_tokens {text : String} {t : Token}
    (ht : t ∈ (ofText rules text).tokens) :
    ∃ s ∈ Segment.ofText rules text.toList, t ∈ s.tokens rules ∧ t.position = s.position := by
  obtain ⟨s, hs, hst⟩ := List.mem_flatMap.mp ((tokens_sublist text).subset ht)
  exact ⟨s, hs, hst, Segment.position_of_mem_tokens hst⟩

/-- **Reading loses nothing.** The segments cover the text, the terms that come out are those of the
matches that are kept, each spelled by its match, and the order of the places is that of the text. -/
theorem lossless_ofText (rules : Rules) (text : String) :
    Lossless rules text.toList (Segment.ofText rules text.toList) (ofText rules text) := by
  have hsplits : Segment.Splits rules none 0 text.toList (Segment.ofText rules text.toList) :=
    Segment.splits_following rules none 0 text.toList
  have hordered := hsplits.ordered
  have hlt : ∀ s ∈ Segment.ofText rules text.toList, s.position < text.toList.length := by
    simpa using hordered.lt
  have hyields : ∀ s ∈ Segment.ofText rules text.toList, ∀ m, s.content = .found m →
      m.reading.Yields m.reading.terms := by
    intro s hs m hm
    obtain ⟨_, _, _, _, _, _, hspells⟩ := hsplits.spells_of_found hs hm
    exact hspells.yields
  refine ⟨hsplits, filter_isTerm_ofText text, hyields, ?_, ?_, ?_, ?_, ?_, ?_⟩
  · intro key form s position ht
    have hterm : (⟨.term (.text key form s), position⟩ : Token) ∈
        (ofText rules text).tokens.filter (·.kind.isTerm) := List.mem_filter.mpr ⟨ht, rfl⟩
    rw [filter_isTerm_ofText] at hterm
    obtain ⟨seg, hseg, hmem⟩ := List.mem_flatMap.mp hterm
    obtain ⟨m, x, hm, hx, heq⟩ := Segment.mem_terms_of_mem_termTokens hmem
    obtain ⟨rfl, rfl⟩ : Term.text key form s = x ∧ position = seg.position := by simpa using heq
    obtain ⟨front, piece, rest, htext, hplace, hlength, hspells⟩ := hsplits.spells_of_found hseg hm
    rw [Nat.zero_add] at hplace
    refine ⟨m, front, piece, rest, ?_, htext, hplace.symm, hlength, hspells.text_cases hx⟩
    rw [← hm]
    exact hseg
  · exact List.pairwise_map.mpr ((Segment.pairwise_tokens hordered.pairwise).sublist
      (tokens_sublist text))
  · intro t ht
    obtain ⟨s, hs, -, hposition⟩ := mem_segments_of_mem_tokens ht
    rw [hposition]
    exact hlt s hs
  · exact List.pairwise_map.mpr (Segment.pairwise_allProblems hordered.pairwise)
  · intro p hp
    obtain ⟨s, hs, hproblem⟩ := List.mem_filterMap.mp hp
    rw [Segment.position_of_problem? hproblem]
    exact hlt s hs
  · rw [filter_isTerm_ofText]
    exact Segment.pairwise_termTokens hordered.pairwise hyields

end TokenStream

end RecordQuery
