import RecordQuery.Proofs.Query.GroupTree
import RecordQuery.Proofs.Query.Seams
import RecordQuery.Proofs.Record.Preparation

/-!
# Negating a whole query

A query in a negated group has the tree of the query with its root negated, and so it keeps the records
that the query does not keep, unless nothing but sort markers is asked for.
-/

namespace RecordQuery

/-! ## The predicate of a negated tree -/

namespace Predicate

variable {engine : Engine} {caseSensitive : Bool} {t : Tree} {p : Option Predicate}

theorem ofTree_negate (hroot : t.isNegated = false) (h : ofTree engine caseSensitive t = .ok p) :
    ofTree engine caseSensitive t.negate = .ok (p.map negate) := by
  cases t with
  | leaf c =>
      have hc : c.negated = false := hroot
      refine ofTree_leaf_eq_ok.mpr ?_
      rcases ofTree_leaf_eq_ok.mp h with ⟨hmarker, rfl⟩ | ⟨hmarker, test, htest, rfl⟩
      · exact .inl ⟨hmarker, rfl⟩
      · exact .inr ⟨hmarker, test, htest, by simp [negate, hc]⟩
  | node o l r n =>
      obtain rfl : n = false := hroot
      obtain ⟨left, right, hl, hr, rfl⟩ := ofTree_node_eq_ok.mp h
      refine ofTree_node_eq_ok.mpr ⟨left, right, hl, hr, ?_⟩
      rw [join_eq_map o true]
      rfl

/-- A condition that is no sort marker leaves a predicate. -/
theorem isSome_of_ofTree {within : Bool} (h : ofTree engine caseSensitive t = .ok p)
    (ht : ∃ c ∈ t.conditionsWithin within, c.term.isSortMarker = false) : p.isSome = true := by
  induction t generalizing within p with
  | leaf c =>
      obtain ⟨d, hd, hterm⟩ := ht
      obtain rfl : d = { c with negated := within || c.negated } := by
        simpa [Tree.conditionsWithin] using hd
      rcases ofTree_leaf_eq_ok.mp h with ⟨hmarker, -⟩ | ⟨-, test, -, rfl⟩
      · simp [hmarker] at hterm
      · rfl
  | node o l r n ihl ihr =>
      obtain ⟨left, right, hl, hr, rfl⟩ := ofTree_node_eq_ok.mp h
      obtain ⟨d, hd, hterm⟩ := ht
      rw [Tree.conditionsWithin] at hd
      -- A predicate on one side is enough, whatever becomes of the other.
      rcases List.mem_append.mp hd with hd | hd
      · obtain ⟨left, rfl⟩ := Option.isSome_iff_exists.mp (ihl hl ⟨d, hd, hterm⟩)
        cases right <;> rfl
      · obtain ⟨right, rfl⟩ := Option.isSome_iff_exists.mp (ihr hr ⟨d, hd, hterm⟩)
        cases left <;> rfl

end Predicate

/-! ## The tree of a negated query -/

/-- **The tree of a negated query.** Up to its places, it is the tree of the query, negated. -/
theorem Parsed.tree_group {q : String} {t : Tree} (hproblems : (Parsed.ofQuery {} q).problems = [])
    (hbalanced : Token.Balanced (Parsed.ofQuery {} q).tokens)
    (ht : (Parsed.ofQuery {} q).tree = some t) :
    ∃ u, (Parsed.ofQuery {} ("-(" ++ q ++ ")")).tree = some u ∧ u.unplaced = t.negate.unplaced := by
  obtain ⟨lead, trail, hlead, htrail, htext⟩ := Text.normalize_group q
  have hkinds := Segment.kinds_group {} hlead htrail (Parsed.content_ne_skipped hproblems)
  rw [← htext] at hkinds
  exact Tree.ofTokens?_cleanup_group hkinds hbalanced ht

/-- **Negating a whole query complements it.** A query without problems whose groups are balanced, that
tests something and whose root is not negated: if it can be prepared for records, so can its negation,
which keeps a record exactly if the query does not. -/
theorem RecordFilter.keeps_negated (engine : Engine) (caseSensitive : Bool) {q : String} {t : Tree}
    {f : RecordFilter}
    (hproblems : (Parsed.ofQuery {} q).problems = [])
    (hbalanced : Token.Balanced (Parsed.ofQuery {} q).tokens)
    (ht : (Parsed.ofQuery {} q).tree = some t)
    (hterm : ∃ c ∈ t.conditions, c.term.isSortMarker = false) (hroot : t.isNegated = false)
    (hf : RecordFilter.ofParsed caseSensitive (Parsed.ofQuery {} q) engine = .ok f) :
    ∃ g, RecordFilter.ofParsed caseSensitive (Parsed.ofQuery {} ("-(" ++ q ++ ")")) engine = .ok g ∧
      ∀ record, g.keeps record = !f.keeps record := by
  obtain ⟨u, hu, hplaces⟩ := Parsed.tree_group hproblems hbalanced ht
  have hp := RecordFilter.ofTree_of_ofParsed ht hf
  obtain ⟨p, hpredicate⟩ := Option.isSome_iff_exists.mp (Predicate.isSome_of_ofTree hp hterm)
  have hnegated := Predicate.ofTree_eq_ok_of_unplaced hplaces.symm (Predicate.ofTree_negate hroot hp)
  refine ⟨_, RecordFilter.ofParsed_of_tree hu hnegated, ?_⟩
  intro record
  rw [RecordFilter.keeps, RecordFilter.keeps, hpredicate]
  exact p.eval_negate record

/-- A query with joiners at both ends and a sort marker: records of a price of 10 or more, or that do
not hold `hobbit`. -/
theorem RecordFilter.keeps_negated_marker :
    let q := "OR asc:title (price>=10 OR -hobbit) AND"
    let t : Tree := .node .and (.leaf ⟨.text (some "asc") .word "title", 3, false⟩)
      (.node .or (.leaf ⟨.number "price" .atLeast (.ofNat 10), 14, false⟩)
        (.leaf ⟨.text none .word "hobbit", 28, true⟩) false) false
    let record : Json := .object [("price", .number (.integer 5)), ("title", .string "The Hobbit")]
    (Parsed.ofQuery {} q).problems = [] ∧ Token.Balanced (Parsed.ofQuery {} q).tokens ∧
      (Parsed.ofQuery {} q).tree = some t ∧ (∃ c ∈ t.conditions, c.term.isSortMarker = false) ∧
      t.isNegated = false ∧
      ∃ f g, RecordFilter.ofParsed false (Parsed.ofQuery {} q) = .ok f ∧
        RecordFilter.ofParsed false (Parsed.ofQuery {} ("-(" ++ q ++ ")")) = .ok g ∧
        f.keeps record = false ∧ g.keeps record = !f.keeps record := by
  intro q t record
  have hproblems : (Parsed.ofQuery {} q).problems = [] := by decide +kernel
  have hbalanced : Token.Balanced (Parsed.ofQuery {} q).tokens := by decide +kernel
  have ht : (Parsed.ofQuery {} q).tree = some t := by decide +kernel
  have hterm : ∃ c ∈ t.conditions, c.term.isSortMarker = false := by decide
  have hf := RecordFilter.ofParsed_of_tree ht (show Predicate.ofTree Regex.engine false t = .ok _ from rfl)
  obtain ⟨g, hg, hkeeps⟩ := keeps_negated Regex.engine false hproblems hbalanced ht hterm rfl hf
  exact ⟨hproblems, hbalanced, ht, hterm, rfl, _, g, hf, hg, by decide +kernel, hkeeps record⟩

end RecordQuery
