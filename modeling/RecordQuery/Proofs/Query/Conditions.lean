import RecordQuery.Proofs.Query.Rejection
import RecordQuery.Proofs.Query.WholeChunk

/-!
# Where conditions are written

The conditions of a query stem from its tokens: each is on the term of a token and at its place, and they
come in the order of their places. At its place the query spells the term, text with its delimiters and a
number or an instant by a literal.
-/

namespace RecordQuery

variable {rules : Rules} {q : String}

theorem Token.kind_of_term? {t : Token} {x : Term} (h : t.term? = some x) : t.kind = .term x := by
  obtain ⟨kind, position⟩ := t
  cases kind with
  | term y =>
      obtain rfl := Option.some.inj h
      rfl
  | joiner j | openGroup n | closeGroup | negation => cases h

/-- What is read from a literal behind a key has that key. -/
theorem Term.ReadFrom.key?_eq {x : Term} {key literal : List Char} {c : Comparison}
    (hkey : Match.isKey key = true) (h : x.ReadFrom key c literal) : x.key? = some (String.ofList key) := by
  cases h with
  | comparison hr hx =>
      have hspells : Match.Spells {} _ _ := Match.spells_of_comparisonReading? hkey hr
      exact hspells.key?_of_mem_terms (List.mem_filterMap.mpr ⟨_, hx, rfl⟩)
  | range hc hr hx =>
      have hspells : Match.Spells {} _ _ := Match.spells_of_rangeReading? hkey hc hr
      exact hspells.key?_of_mem_terms (List.mem_filterMap.mpr ⟨_, hx, rfl⟩)

theorem Term.Bounds.compares {x y : Term} (h : Term.Bounds x y) : x.comparison?.isSome = true := by
  cases h <;> rfl

namespace TokenStream

/-- A query that is too long has no tokens, and any other is read. -/
theorem mem_ofText_of_mem_ofQuery {t : Token} (ht : t ∈ (ofQuery rules q).tokens) :
    t ∈ (ofText rules q).tokens := by
  rcases ofQuery_anyKey rules q with ⟨hnone, -⟩ | ⟨hread, -⟩
  · rw [hnone] at ht
    cases ht
  · rwa [hread] at ht

/-- Terms come in the order of their places. Two of them at one place are the bounds of one match. -/
theorem pairwise_terms (rules : Rules) (q : String) :
    ((ofQuery rules q).tokens.filter (·.kind.isTerm)).Pairwise fun t u =>
      t.position < u.position ∨ t.position = u.position ∧
        ∃ x y, t.kind = .term x ∧ u.kind = .term y ∧ Term.Bounds x y := by
  rcases ofQuery_anyKey rules q with ⟨hnone, -⟩ | ⟨hread, -⟩
  · rw [hnone]
    exact List.Pairwise.nil
  · have hsplits := Segment.splits_following rules none 0 q.toList
    have hyields : ∀ s ∈ Segment.ofText rules q.toList, ∀ m, s.content = .found m →
        m.reading.Yields m.reading.terms := by
      intro s hs m hm
      obtain ⟨_, hspells⟩ := Segment.exists_spells hs hm
      exact hspells.yields
    have hplaces := (Segment.pairwise_tokens hsplits.ordered.pairwise).sublist (tokens_sublist q)
    have hshared : ((Segment.ofText rules q.toList).flatMap (Segment.termTokens rules)).Pairwise _ :=
      Segment.pairwise_termTokens hsplits.ordered.pairwise hyields
    rw [← filter_isTerm_ofText] at hshared
    rw [hread]
    refine ((hplaces.filter _).and hshared).imp ?_
    rintro t u ⟨hle, hbounds⟩
    rcases Nat.lt_or_eq_of_le hle with hlt | heq
    · exact .inl hlt
    · obtain ⟨m, x, y, -, -, hx, hy, hxy⟩ := hbounds heq
      exact .inr ⟨heq, x, y, hx, hy, hxy⟩

/-- A term of text spells what is matched at its place, but for a key that the text does not give. -/
theorem exists_spelled {key : Option String} {form : Form} {s : String} {position : Nat}
    (ht : ⟨.term (.text key form s), position⟩ ∈ (ofText rules q).tokens) :
    ∃ front piece rest, q.toList = front ++ piece ++ rest ∧ front.length = position ∧
      (key = rules.defaultKey ∧ piece = form.enclose s.toList ∨
        ∃ k, key = some k ∧ piece = k.toList ++ ':' :: form.enclose s.toList) := by
  obtain ⟨front, after, m, htext, hposition, hm, hx⟩ := exists_at?_of_mem ht rfl
  obtain ⟨piece, rest, rfl, hspells⟩ := Match.spelledAt_of_at? hm
  refine ⟨front, piece, rest, ?_, hposition, hspells.text_cases hx⟩
  rw [htext, List.append_assoc]

/-- A term that compares is read from a literal at its place, behind its key and a sign. -/
theorem exists_readFrom {x : Term} {position : Nat}
    (ht : ⟨.term x, position⟩ ∈ (ofText rules q).tokens) (hx : x.comparison?.isSome = true) :
    ∃ front key c literal rest,
      q.toList = front ++ (key ++ c.spelling.toList ++ literal) ++ rest ∧ front.length = position ∧
        x.key? = some (String.ofList key) ∧ x.ReadFrom key c literal := by
  obtain ⟨front, text, m, htext, hposition, hm, hterm⟩ := exists_at?_of_mem ht rfl
  obtain ⟨key, c, after, rfl, hkey, -, hread, -⟩ :=
    Match.readFrom_of_terms (Match.literal_of_comparison hm hterm hx) hterm
  refine ⟨front, key, c, _, after.dropWhile Literal.isLiteralChar, ?_, hposition, hread.key?_eq hkey, hread⟩
  simp [htext, List.takeWhile_append_dropWhile]

end TokenStream

namespace Parsed

/-- The conditions of the tree, also those that do not count, are on the terms of the tokens. -/
theorem map_conditions_tree (rules : Rules) (q : String) :
    ((Parsed.ofQuery rules q).tree.elim [] Tree.conditions).map (fun c => (c.term, c.position)) =
      (Parsed.ofQuery rules q).tokens.filterMap Token.placed? := by
  rw [← Token.map_conditionsFrom [], ← Tree.conditions_ofTokens?]
  rfl

variable {t : Tree} {c : Condition}

theorem mem_tokens_of_mem_tree (ht : (Parsed.ofQuery rules q).tree = some t) (hc : c ∈ t.conditions) :
    ⟨.term c.term, c.position⟩ ∈ (Parsed.ofQuery rules q).tokens := by
  have hmap := map_conditions_tree rules q
  rw [ht] at hmap
  have hplaced : (c.term, c.position) ∈ (Parsed.ofQuery rules q).tokens.filterMap Token.placed? := by
    rw [← hmap]
    exact List.mem_map_of_mem hc
  obtain ⟨⟨kind, position⟩, hmem, hplace⟩ := List.mem_filterMap.mp hplaced
  obtain ⟨x, hx, hpair⟩ := Option.map_eq_some_iff.mp hplace
  obtain ⟨rfl, rfl⟩ := Prod.mk.inj hpair
  obtain rfl := Token.kind_of_term? hx
  exact hmem

/-- The conditions of a tree stand in it in the order of their places in the query, and only the bounds of one
match share a place. -/
theorem pairwise_tree (ht : (Parsed.ofQuery rules q).tree = some t) :
    t.conditions.Pairwise fun c d =>
      c.position < d.position ∨ c.position = d.position ∧ Term.Bounds c.term d.term := by
  have hmap := map_conditions_tree rules q
  rw [ht] at hmap
  have hplaced : ((Parsed.ofQuery rules q).tokens.filterMap Token.placed?).Pairwise fun c d =>
      c.2 < d.2 ∨ c.2 = d.2 ∧ Term.Bounds c.1 d.1 := by
    rw [List.pairwise_filterMap]
    refine (List.pairwise_filter.mp (TokenStream.pairwise_terms rules (Text.normalize q))).imp ?_
    rintro ⟨kind, i⟩ ⟨kind', j⟩ hterms p hp p' hp'
    obtain ⟨x, hx, rfl⟩ := Option.map_eq_some_iff.mp hp
    obtain ⟨y, hy, rfl⟩ := Option.map_eq_some_iff.mp hp'
    obtain rfl := Token.kind_of_term? hx
    obtain rfl := Token.kind_of_term? hy
    rcases hterms rfl rfl with hlt | ⟨heq, x', y', hx', hy', hbounds⟩
    · exact .inl hlt
    · obtain rfl := Token.Kind.term.inj hx'
      obtain rfl := Token.Kind.term.inj hy'
      exact .inr ⟨heq, hbounds⟩
  rw [← hmap, List.pairwise_map] at hplaced
  exact hplaced

theorem conditions_of_tree (ht : (Parsed.ofQuery rules q).tree = some t) :
    (Parsed.ofQuery rules q).conditions = t.conditions.filter (·.term.counts rules.dropZeroValues) := by
  change conditionsOf rules.dropZeroValues (Parsed.ofQuery rules q).tree = _
  rw [ht]
  rfl

theorem conditions_of_no_tree (ht : (Parsed.ofQuery rules q).tree = none) :
    (Parsed.ofQuery rules q).conditions = [] := by
  change conditionsOf rules.dropZeroValues (Parsed.ofQuery rules q).tree = _
  rw [ht]
  rfl

/-- A condition that counts is on a term of the text. -/
theorem mem_ofText_of_mem_conditions (hc : c ∈ (Parsed.ofQuery rules q).conditions) :
    ⟨.term c.term, c.position⟩ ∈ (TokenStream.ofText rules (Text.normalize q)).tokens := by
  cases ht : (Parsed.ofQuery rules q).tree with
  | none =>
      rw [conditions_of_no_tree ht] at hc
      cases hc
  | some t =>
      rw [conditions_of_tree ht] at hc
      exact TokenStream.mem_ofText_of_mem_ofQuery (mem_tokens_of_mem_tree ht (List.mem_filter.mp hc).1)

theorem pairwise_conditions (rules : Rules) (q : String) :
    (Parsed.ofQuery rules q).conditions.Pairwise fun c d =>
      c.position < d.position ∨ c.position = d.position ∧ Term.Bounds c.term d.term := by
  cases ht : (Parsed.ofQuery rules q).tree with
  | none =>
      rw [conditions_of_no_tree ht]
      exact List.Pairwise.nil
  | some t =>
      rw [conditions_of_tree ht]
      exact (pairwise_tree ht).filter _

end Parsed

end RecordQuery
