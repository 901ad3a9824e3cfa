import RecordQuery.Proofs.Query.Placement
import RecordQuery.Record.Filter

/-!
# Preparing a query

What the predicate of a tree is made of: nothing for a sort marker, the test of any other leaf, and
the predicates of both sides for a node. It depends on the terms of the tree and not on their places.
-/

namespace RecordQuery

namespace Predicate

variable {engine : Engine} {caseSensitive : Bool} {p : Option Predicate}

/-- The negation of a node can be put on what its sides are joined to. -/
theorem join_eq_map (o : Connective) (n : Bool) (l r : Option Predicate) :
    join o n l r = (join o false l r).map (·.negateIf n) := by
  cases l with
  | none => cases r <;> rfl
  | some l =>
      cases r with
      | none => rfl
      | some r => cases n <;> rfl

theorem ofTree_leaf_eq_ok {c : Condition} :
    ofTree engine caseSensitive (.leaf c) = .ok p ↔
      (c.term.isSortMarker = true ∧ p = none) ∨
        (c.term.isSortMarker = false ∧ ∃ test, Test.ofTerm engine caseSensitive c.position c.term = .ok test ∧
          p = some (leaf c.term.key? test c.negated)) := by
  rw [ofTree]
  cases hmarker : c.term.isSortMarker with
  | true => simp [eq_comm]
  | false =>
      cases htest : Test.ofTerm engine caseSensitive c.position c.term with
      | error e => simp [bind, Except.bind]
      | ok test => simp [bind, Except.bind, pure, Except.pure, eq_comm]

theorem ofTree_node_eq_ok {o : Connective} {l r : Tree} {n : Bool} :
    ofTree engine caseSensitive (.node o l r n) = .ok p ↔
      ∃ left right, ofTree engine caseSensitive l = .ok left ∧ ofTree engine caseSensitive r = .ok right ∧
        p = join o n left right := by
  rw [ofTree]
  cases hl : ofTree engine caseSensitive l with
  | error e => simp [bind, Except.bind]
  | ok left =>
      cases hr : ofTree engine caseSensitive r with
      | error e => simp [bind, Except.bind]
      | ok right => simp [bind, Except.bind, pure, Except.pure, eq_comm]

/-! ## Places -/

/-- The place of a term shows up in the error only. -/
theorem ofTerm_eq_ok_congr {position : Nat} (place : Nat) {x : Term} {test : Test}
    (h : Test.ofTerm engine caseSensitive position x = .ok test) :
    Test.ofTerm engine caseSensitive place x = .ok test := by
  cases x with
  | number key c y => exact h
  | date key c y => exact h
  | text key form s =>
      cases form with
      | word => exact h
      | phrase => exact h
      | regex =>
          rw [Test.ofTerm] at h ⊢
          cases hr : engine (!caseSensitive) s with
          | none => simp [hr] at h
          | some r => simpa [hr] using h

/-- Trees that differ in places only have the same predicate. -/
theorem ofTree_eq_ok_of_unplaced {t u : Tree} (htu : t.unplaced = u.unplaced)
    (h : ofTree engine caseSensitive t = .ok p) : ofTree engine caseSensitive u = .ok p := by
  induction t generalizing u p with
  | leaf c =>
      cases u with
      | node o l r n => simp [Tree.unplaced] at htu
      | leaf d =>
          obtain ⟨x, i, n⟩ := c
          obtain ⟨y, j, m⟩ := d
          obtain ⟨rfl, rfl⟩ : x = y ∧ n = m := by simpa [Tree.unplaced] using htu
          rcases ofTree_leaf_eq_ok.mp h with hmarker | ⟨hmarker, test, htest, hp⟩
          · exact ofTree_leaf_eq_ok.mpr (.inl hmarker)
          · exact ofTree_leaf_eq_ok.mpr (.inr ⟨hmarker, test, ofTerm_eq_ok_congr j htest, hp⟩)
  | node o l r n ihl ihr =>
      cases u with
      | leaf d => simp [Tree.unplaced] at htu
      | node o' l' r' n' =>
          obtain ⟨rfl, hl, hr, rfl⟩ : o = o' ∧ l.unplaced = l'.unplaced ∧
              r.unplaced = r'.unplaced ∧ n = n' := by simpa [Tree.unplaced] using htu
          obtain ⟨left, right, hleft, hright, hp⟩ := ofTree_node_eq_ok.mp h
          exact ofTree_node_eq_ok.mpr ⟨left, right, ihl hl hleft, ihr hr hright, hp⟩

theorem ofTree_of_unplaced {t : Tree} (h : ofTree engine caseSensitive t.unplaced = .ok p) :
    ofTree engine caseSensitive t = .ok p :=
  ofTree_eq_ok_of_unplaced t.unplaced_unplaced h

end Predicate

namespace RecordFilter

variable {engine : Engine} {caseSensitive : Bool} {query : Parsed}

theorem ofParsed_of_tree {t : Tree} {p : Option Predicate} (ht : query.tree = some t)
    (hp : Predicate.ofTree engine caseSensitive t = .ok p) :
    ofParsed caseSensitive query engine = .ok ⟨p, SortKey.ofConditions query.conditions⟩ := by
  rw [ofParsed, ht]
  simp [hp, bind, Except.bind, pure, Except.pure]

theorem ofParsed_of_no_tree (ht : query.tree = none) :
    ofParsed caseSensitive query engine = .ok ⟨none, SortKey.ofConditions query.conditions⟩ := by
  rw [ofParsed, ht]
  rfl

/-- The predicate of a filter is that of its tree. -/
theorem ofTree_of_ofParsed {f : RecordFilter} {t : Tree} (ht : query.tree = some t)
    (hf : ofParsed caseSensitive query engine = .ok f) :
    Predicate.ofTree engine caseSensitive t = .ok f.predicate := by
  rw [ofParsed, ht] at hf
  cases hp : Predicate.ofTree engine caseSensitive t with
  | error e => simp [hp, bind, Except.bind] at hf
  | ok p =>
      simp only [hp, bind, Except.bind, pure, Except.pure, Except.ok.injEq] at hf
      rw [← hf]

end RecordFilter

end RecordQuery
