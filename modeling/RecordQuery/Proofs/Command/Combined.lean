import RecordQuery.Command.Run
import RecordQuery.Proofs.Query.Between
import RecordQuery.Proofs.Query.GroupRow

/-!
# Several queries as one

Queries that are combined stand in groups of their own with an OR between neighbours. Each is read there
as by itself, so the tree is the disjunction of their trees: unless a word of one of them starts with an
open slash that a slash of a later one closes, over all that lies between.
-/

namespace RecordQuery

/-- A word of the query starts with a slash that no other closes. -/
def Parsed.LeavesOpen (q : String) : Prop :=
  ∃ t ∈ (Parsed.ofQuery {} q).tokens, t.term?.any Term.isOpenSlash = true

instance (q : String) : Decidable (Parsed.LeavesOpen q) :=
  inferInstanceAs (Decidable (∃ t ∈ (Parsed.ofQuery {} q).tokens, _))

namespace Command

/-- The combined text of queries. -/
def combinedText (queries : List String) : List Char :=
  " OR ".toList.intercalate (queries.map fun q => '(' :: (q.toList ++ [')']))

/-- Its normal spelling. -/
def combinedSpelling (queries : List String) : List Char :=
  [' '].intercalate (Text.words (combinedText queries))

/-- What it is read as. -/
def combinedKinds (queries : List String) : List Token.Kind :=
  [.joiner .or].intercalate
    (queries.map fun q => .openGroup false :: (Parsed.rawKinds q ++ [.closeGroup]))

/-- What comes after the first query: an OR and the others, if there are any. -/
def combinedTail : List String → List Char
  | [] => []
  | rest => " OR ".toList ++ combinedSpelling rest

/-- The signs and ORs apart, the text is made of the characters of the queries. -/
theorem mem_combinedText {c : Char} {queries : List String} (h : c ∈ combinedText queries)
    (hc : c ∉ " OR ()".toList) : ∃ q ∈ queries, c ∈ q.toList := by
  have hgroup : ∀ q : String, c ∈ '(' :: (q.toList ++ [')']) → c ∈ q.toList := by
    intro q hmem
    simp only [List.mem_cons, List.mem_append, List.not_mem_nil, or_false] at hmem
    rcases hmem with rfl | hmem | rfl
    · simp at hc
    · exact hmem
    · simp at hc
  induction queries with
  | nil => cases h
  | cons q rest ih =>
      cases rest with
      | nil => exact ⟨q, List.mem_cons_self .., hgroup q (by simpa [combinedText] using h)⟩
      | cons next rest =>
          rw [combinedText, List.map_cons, List.map_cons, List.intercalate_cons_cons, List.append_assoc] at h
          rcases List.mem_append.mp h with hmem | hmem
          · exact ⟨q, List.mem_cons_self .., hgroup q hmem⟩
          · rcases List.mem_append.mp hmem with hmem | hmem
            · exact absurd (by simp at hmem ⊢; tauto) hc
            · obtain ⟨found, hfound, hin⟩ := ih hmem
              exact ⟨found, List.mem_cons_of_mem _ hfound, hin⟩

theorem exists_combinedText_cons (q : String) (rest : List String) :
    ∃ text, combinedText (q :: rest) = '(' :: text := by
  cases rest with
  | nil => exact ⟨q.toList ++ [')'], by simp [combinedText]⟩
  | cons next rest =>
      rw [combinedText, List.map_cons, List.map_cons, List.intercalate_cons_cons]
      exact ⟨_, rfl⟩

/-- The first query comes in a group in front of the others. -/
theorem combinedSpelling_cons (q : String) (rest : List String) :
    ∃ lead trail, Text.IsGap lead ∧ Text.IsGap trail ∧
      combinedSpelling (q :: rest) =
        '(' :: (lead ++ ((Text.normalize q).toList ++ (trail ++ [')']))) ++ combinedTail rest := by
  obtain ⟨lead, trail, hlead, htrail, hgroup⟩ := Text.exists_gaps_group q.toList
  refine ⟨lead, trail, hlead, htrail, ?_⟩
  have hnormal : (Text.normalize q).toList = [' '].intercalate (Text.words q.toList) :=
    String.toList_ofList
  rw [hnormal, ← hgroup]
  cases rest with
  | nil => simp [combinedSpelling, combinedText, combinedTail]
  | cons next rest =>
      have hspace : Text.isBlank ' ' = true := by decide
      have htext : combinedText (q :: next :: rest) =
          ('(' :: (q.toList ++ [')'])) ++ ' ' :: (['O', 'R'] ++ ' ' :: combinedText (next :: rest)) := by
        simp [combinedText]
      have hor : Text.words ['O', 'R'] = [['O', 'R']] := by decide +kernel
      have hrest : Text.words (combinedText (next :: rest)) ≠ [] := by
        obtain ⟨text, htext⟩ := exists_combinedText_cons next rest
        rw [htext]
        exact Text.words_ne_nil (by decide) text
      rw [combinedSpelling, htext, Text.words_append_blank hspace, Text.words_append_blank hspace, hor,
        Text.intercalate_append (Text.words_ne_nil (by decide) _) (by simp),
        Text.intercalate_append (by simp) hrest, List.intercalate_singleton]
      rfl

/-! ## Tokens -/

theorem combinedKinds_cons_cons (q next : String) (rest : List String) :
    combinedKinds (q :: next :: rest) =
      .openGroup false :: (Parsed.rawKinds q ++ [.closeGroup]) ++
        (.joiner .or :: combinedKinds (next :: rest)) := by
  simp [combinedKinds]

/-- What a query leaves open, no text without a slash closes. -/
theorem slash_notMem_of_leavesOpen {q : String} {rest : List Char}
    (h : Parsed.LeavesOpen q → '/' ∉ rest) :
    ∀ s ∈ Segment.ofText {} (Text.normalize q).toList, ∀ m, s.content = .found m →
      ∀ x ∈ m.reading.terms, x.isOpenSlash = true → '/' ∉ rest := by
  intro s hs m hm x hx hopen
  refine h ⟨⟨.term x, s.position⟩, ?_, hopen⟩
  have hkept : (⟨.term x, s.position⟩ : Token) ∈ s.termTokens {} := by
    refine List.mem_map.mpr ⟨x, ?_, rfl⟩
    have haccepts : m.key.all ({} : Rules).accepts = true := by
      cases m.key <;> rfl
    simpa [Segment.terms, hm, haccepts] using hx
  have hterm : (⟨.term x, s.position⟩ : Token) ∈
      (TokenStream.ofText {} (Text.normalize q)).tokens.filter (·.kind.isTerm) := by
    rw [TokenStream.filter_isTerm_ofText]
    exact List.mem_flatMap.mpr ⟨s, hs, hkept⟩
  exact (List.mem_filter.mp hterm).1

/-- An OR between two groups is read as such. -/
theorem reads_or (rules : Rules) (before : Option Char) (rest : List Char) :
    Segment.Reads rules before " OR ".toList rest [.joiner .or] := by
  have hor : Segment.Reads rules (some ' ') ['O', 'R'] ([' '] ++ rest) [.joiner .or] :=
    reads_joiner (some ' ') .or rest
  have hgap : ∀ before rest, Segment.Reads rules before [' '] rest [] :=
    fun before rest => Segment.reads_gap (.inr rfl) before rest
  exact (hgap before _).append (hor.append (hgap _ rest))

theorem slash_notMem_combinedTail {rest : List String} (h : ∀ q ∈ rest, '/' ∉ q.toList) :
    '/' ∉ combinedTail rest := by
  cases rest with
  | nil => simp [combinedTail]
  | cons next rest =>
      intro hmem
      have hspelling : '/' ∈ (Text.normalize (String.ofList (combinedText (next :: rest)))).toList := by
        simpa [combinedTail, combinedSpelling, Text.normalize] using hmem
      have htext := (Text.mem_of_mem_normalize hspelling (by decide)).1
      rw [String.toList_ofList] at htext
      obtain ⟨q, hq, hslash⟩ := mem_combinedText htext (by decide)
      exact h q hq hslash

/-- **Tokens of combined queries.** Queries without problems, of which none leaves a slash open that is
closed in a later one, have the tokens there that they have by themselves. -/
theorem adds_combined {queries : List String}
    (hproblems : ∀ q ∈ queries, (Parsed.ofQuery {} q).problems = [])
    (hclosed : queries.Pairwise fun q next => Parsed.LeavesOpen q → '/' ∉ next.toList)
    (before : Option Char) (hbefore : before.all Match.isBoundary = true) :
    Segment.Adds {} Segment.NothingWaits before (combinedSpelling queries) [] (combinedKinds queries) := by
  induction queries generalizing before with
  | nil => exact (Segment.reads_gap (.inl rfl) before []).adds
  | cons q rest ih =>
      obtain ⟨hq, hrest⟩ := List.forall_mem_cons.mp hproblems
      obtain ⟨hfirst, hlater⟩ := List.pairwise_cons.mp hclosed
      obtain ⟨lead, trail, hlead, htrail, hspelling⟩ := combinedSpelling_cons q rest
      have htail : Parsed.LeavesOpen q → '/' ∉ combinedTail rest ++ [] := by
        rw [List.append_nil]
        exact fun hopen => slash_notMem_combinedTail fun next hnext => hfirst next hnext hopen
      -- What a token of the query could still reach is the end of its group, or a slash.
      have hends := Segment.ends_group htrail (Parsed.content_ne_skipped hq)
        (slash_notMem_of_leavesOpen htail)
      have hgroup := Segment.adds_group hbefore false hlead htrail hends
      rw [hspelling]
      cases rest with
      | nil => simpa [combinedTail, combinedKinds, Parsed.rawKinds] using hgroup
      | cons next rest =>
          have hothers := fun before => (reads_or {} before _).adds.append_adds
            (by simp [Token.Kind.isNegation]) (ih hrest hlater (some ' ') (by decide))
          rw [combinedKinds_cons_cons]
          refine hgroup.append_adds ?_ (hothers _)
          intro k hk
          rw [← List.cons_append, List.getLast?_concat] at hk
          obtain rfl := Option.some.inj hk
          rfl

/-! ## Trees -/

theorem rawKinds_combined {queries : List String} (hqueries : queries.length ≠ 1)
    (hproblems : ∀ q ∈ queries, (Parsed.ofQuery {} q).problems = [])
    (hclosed : queries.Pairwise fun q next => Parsed.LeavesOpen q → '/' ∉ next.toList) :
    Parsed.rawKinds (combine queries) = combinedKinds queries := by
  have htext : (combine queries).toList = combinedText queries := by
    unfold combine
    split
    · simp at hqueries
    · simp [combinedText, String.toList_intercalate, String.toList_append, Function.comp_def]
  have hspelling : (Text.normalize (combine queries)).toList = combinedSpelling queries := by
    rw [Text.normalize, String.toList_ofList, htext, combinedSpelling]
  rw [Parsed.rawKinds, hspelling]
  exact (adds_combined hproblems hclosed none rfl).kinds_eq

/-- Before cleanup, the tokens are a row of those of the queries. -/
theorem row_combined {queries : List String}
    (hbalanced : ∀ q ∈ queries, Token.Balanced (Parsed.ofQuery {} q).tokens) :
    Cleanup.Row ⟨.openGroup false, 0⟩ ⟨.closeGroup, 0⟩ ⟨.joiner .or, 0⟩ false
      (queries.map fun q => Token.unplaced (Parsed.rawKinds q)) (Token.unplaced (combinedKinds queries)) := by
  induction queries with
  | nil => exact .nil
  | cons q rest ih =>
      obtain ⟨hq, hrest⟩ := List.forall_mem_cons.mp hbalanced
      have hself := Cleanup.groupOf_self ⟨.openGroup false, 0⟩ ⟨.closeGroup, 0⟩
        (Token.unplaced (Parsed.rawKinds q))
      have hbalanced' : Token.Balanced (Token.unplaced (Parsed.rawKinds q)) := balanced_unplaced hq
      cases rest with
      | nil => simpa [combinedKinds, Token.unplaced] using Cleanup.Row.group hself hbalanced' .nil
      | cons next rest =>
          have hrow := Cleanup.Row.group hself hbalanced' (.joiner (ih hrest))
          rw [combinedKinds_cons_cons]
          simpa [Token.unplaced] using hrow

/-- **Combined queries are their disjunction.** Queries without problems whose groups are balanced, of
which none leaves a slash open that is closed in a later one: up to its places, the tree of all is the
trees of those that have one, joined by OR from the left. -/
theorem ofQuery?_combine {queries : List String}
    (hqueries : ∀ q ∈ queries,
      (Parsed.ofQuery {} q).problems = [] ∧ Token.Balanced (Parsed.ofQuery {} q).tokens)
    (hclosed : queries.Pairwise fun q next => Parsed.LeavesOpen q → '/' ∉ next.toList) :
    Tree.ofQuery? (combine queries) = Tree.disjunction (queries.filterMap Tree.ofQuery?) := by
  by_cases hone : queries.length = 1
  · obtain ⟨q, rfl⟩ := List.length_eq_one_iff.mp hone
    cases ht : Tree.ofQuery? q with
    | none => simp [combine, ht, Tree.disjunction, Tree.disjoin]
    | some t => simp [combine, ht, Tree.disjunction, Tree.disjoin]
  -- The tokens before cleanup are a row of groups; cleanup and the fold go over it group by group.
  · have hraw := rawKinds_combined hone (fun q hq => (hqueries q hq).1) hclosed
    have hrow := (row_combined fun q hq => (hqueries q hq).2).cleanup rfl rfl rfl
    rw [Tree.ofQuery?_eq, hraw, hrow.ofTokens?_eq, List.map_map, List.filterMap_map]
    exact congrArg Tree.disjunction
      (List.filterMap_congr fun q _ => (Tree.ofQuery?_eq q).symm)

/-- Queries of which one has no tree, one ends in a joiner and the last leaves a slash open. -/
theorem ofQuery?_combine_slash :
    let queries := ["a OR b -", "()", "/x|y/ AND", "c /z"]
    (∀ q ∈ queries,
      (Parsed.ofQuery {} q).problems = [] ∧ Token.Balanced (Parsed.ofQuery {} q).tokens) ∧
      (queries.Pairwise fun q next => Parsed.LeavesOpen q → '/' ∉ next.toList) ∧
      Tree.ofQuery? (combine queries) = Tree.disjunction (queries.filterMap Tree.ofQuery?) := by
  intro queries
  have hqueries : ∀ q ∈ queries,
      (Parsed.ofQuery {} q).problems = [] ∧ Token.Balanced (Parsed.ofQuery {} q).tokens := by
    decide +kernel
  have hclosed : queries.Pairwise fun q next => Parsed.LeavesOpen q → '/' ∉ next.toList := by
    decide +kernel
  exact ⟨hqueries, hclosed, ofQuery?_combine hqueries hclosed⟩

/-- The slash of the second query closes the one that the first leaves open: `(/a) OR (b/c)` holds the
pattern `a) OR (b`. -/
theorem ofQuery?_combine_closed :
    (∀ q ∈ ["/a", "b/c"],
      (Parsed.ofQuery {} q).problems = [] ∧ Token.Balanced (Parsed.ofQuery {} q).tokens) ∧
      ["/a", "b/c"].filterMap Tree.ofQuery? = [.leaf ⟨.text none .word "/a", 0, false⟩,
        .leaf ⟨.text none .word "b/c", 0, false⟩] ∧
      Tree.ofQuery? (combine ["/a", "b/c"]) = some (.node .and
        (.leaf ⟨.text none .regex "a) OR (b", 0, false⟩) (.leaf ⟨.text none .word "c", 0, false⟩) false) ∧
      Tree.ofQuery? (combine ["/a", "b/c"]) ≠
        Tree.disjunction (["/a", "b/c"].filterMap Tree.ofQuery?) := by
  decide +kernel

end Command

end RecordQuery
