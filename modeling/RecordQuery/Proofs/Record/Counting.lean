import RecordQuery.Proofs.Record.Meaning

/-!
# Which conditions count

The conditions of a query leave out empty text and, if the rules say so, zeros. A fold over a backend
passes over empty text only, so the conditions it gives account of are those of the query as long as
no zero is left out. A record filter passes over neither: it keeps the records it would keep without the
conditions that do not count as long as these are sort markers.
-/

namespace RecordQuery

/-! ## What a fold gives account of -/

namespace Backend

variable {σ F O : Type}

/-- The conditions that an outcome gives account of. -/
def Outcome.accounted (x : Outcome F O) : List Condition := x.filtered ++ x.ordered ++ x.dropped

theorem accounted_ofCondition (b : Backend σ F O) (c : Condition) (s : σ) :
    (b.ofCondition c s).1.accounted = [c] := by
  unfold ofCondition
  cases c.term.isSortMarker with
  | true =>
      simp only [if_true, bind, StateT.bind]
      cases b.order c s with
      | mk given s' => cases given <;> rfl
  | false =>
      simp only [Bool.false_eq_true, if_false, bind, StateT.bind]
      cases b.condition c s with
      | mk given s' => cases given <;> rfl

theorem accounted_fold_leaf (b : Backend σ F O) (within : Bool) (c : Condition) (s : σ) :
    (b.fold within (.leaf c) s).1.accounted =
      if c.term.isEmpty then [] else [{ c with negated := within || c.negated }] := by
  cases hempty : c.term.isEmpty with
  | true =>
      simp only [fold, hempty]
      rfl
  | false =>
      have haccounted := b.accounted_ofCondition { c with negated := within || c.negated } s
      simp only [fold, hempty]
      exact haccounted

theorem accounted_fold_node (b : Backend σ F O) (within : Bool) (o : Connective) (l r : Tree)
    (n : Bool) (s : σ) :
    ∃ s', (b.fold within (.node o l r n) s).1.accounted.Perm
      ((b.fold (within || n) l s).1.accounted ++ (b.fold (within || n) r s').1.accounted) := by
  refine ⟨(b.fold (within || n) l s).2, ?_⟩
  generalize hx : (b.fold (within || n) l s).1 = x
  generalize hy : (b.fold (within || n) r (b.fold (within || n) l s).2).1 = y
  have hnode : (b.fold within (.node o l r n) s).1.accounted =
      (x.filtered ++ y.filtered) ++ (x.ordered ++ y.ordered) ++ (x.dropped ++ y.dropped) := by
    subst hx hy
    rfl
  rw [hnode, List.perm_iff_count]
  intro c
  simp only [Outcome.accounted, List.count_append]
  omega

/-- A fold gives account of every condition that is not on empty text, each once, with the negations
around it. -/
theorem accounted_fold (b : Backend σ F O) (within : Bool) (t : Tree) (s : σ) :
    (b.fold within t s).1.accounted.Perm
      ((t.conditionsWithin within).filter (·.term.counts false)) := by
  induction t generalizing within s with
  | leaf c =>
      rw [accounted_fold_leaf]
      cases hempty : c.term.isEmpty <;> simp [Tree.conditionsWithin, Term.counts, hempty]
  | node o l r n ihl ihr =>
      obtain ⟨s', hnode⟩ := b.accounted_fold_node within o l r n s
      rw [Tree.conditionsWithin, List.filter_append]
      exact hnode.trans ((ihl (within || n) s).append (ihr (within || n) s'))

theorem accounted_compile (b : Backend σ F O) (query : Parsed) (s : σ) :
    ((b.compile query).run s).1.accounted.Perm (conditionsOf false query.tree) := by
  cases ht : query.tree with
  | none =>
      rw [compile, ht]
      exact .nil
  | some t =>
      rw [compile, ht]
      exact b.accounted_fold false t s

end Backend

/-! ## Conditions that do not count -/

/-- The conditions of a tree that do not count. -/
def uncountedOf (dropZero : Bool) (tree : Option Tree) : List Condition :=
  match tree with
  | some t => t.conditions.filter (!·.term.counts dropZero)
  | none => []

theorem Term.counts_false_of_counts {dropZero : Bool} {x : Term} (h : x.counts dropZero = true) :
    x.counts false = true := by
  cases hempty : x.isEmpty <;> simp_all [Term.counts]

/-- All that is not empty text counts exactly if nothing else is left out. -/
theorem perm_conditionsOf_iff (dropZero : Bool) (tree : Option Tree) :
    (conditionsOf false tree).Perm (conditionsOf dropZero tree) ↔
      ∀ c ∈ uncountedOf dropZero tree, c.term.isEmpty = true := by
  cases tree with
  | none => simp [conditionsOf, uncountedOf]
  | some t =>
      simp only [conditionsOf, uncountedOf, List.mem_filter, Bool.not_eq_true']
      constructor
      · rintro hperm c ⟨hc, huncounted⟩
        rw [← Bool.not_eq_false]
        intro hempty
        have hmem := hperm.mem_iff.mp (List.mem_filter.mpr ⟨hc, by simp [Term.counts, hempty]⟩)
        simp [huncounted] at hmem
      · intro hempty
        rw [List.filter_congr (q := (·.term.counts dropZero))]
        intro c hc
        cases hcounts : c.term.counts dropZero with
        | true => exact Term.counts_false_of_counts hcounts
        | false => simp [Term.counts, hempty c ⟨hc, hcounts⟩]

/-! ## Trees without some of their leaves -/

namespace Tree

/-- The terms of the tree from left to right. -/
def terms : Tree → List Term
  | leaf c => [c.term]
  | node _ l r _ => l.terms ++ r.terms

theorem map_term_conditionsWithin (within : Bool) (t : Tree) :
    (t.conditionsWithin within).map (·.term) = t.terms := by
  induction t generalizing within with
  | leaf c => rfl
  | node o l r n ihl ihr => simp [conditionsWithin, terms, ihl, ihr]

/-- The tree with the negation of its root turned round. -/
def flip : Tree → Tree
  | leaf c => leaf { c with negated := !c.negated }
  | node o l r n => node o l r (!n)

/-- The tree without the leaves that are not kept. A side that is missing leaves the other, under the
node's negation. -/
def prune (keep : Term → Bool) : Tree → Option Tree
  | leaf c => if keep c.term then some (leaf c) else none
  | node o l r n =>
    match l.prune keep, r.prune keep with
    | some l, some r => some (node o l r n)
    | some t, none | none, some t => some (if n then t.flip else t)
    | none, none => none

end Tree

namespace Predicate

variable {engine : Engine} {caseSensitive : Bool} {p : Option Predicate}

theorem negateIf_not (n : Bool) (p : Predicate) : p.negateIf (!n) = (p.negateIf n).negate := by
  cases n with
  | false => rfl
  | true => cases p <;> simp [negateIf, negate]

theorem join_not (o : Connective) (n : Bool) (l r : Option Predicate) :
    join o (!n) l r = (join o n l r).map negate := by
  rw [join_eq_map, join_eq_map o n, Option.map_map]
  exact Option.map_congr fun p _ => negateIf_not n p

theorem ofTree_flip {t : Tree} (h : ofTree engine caseSensitive t = .ok p) :
    ofTree engine caseSensitive t.flip = .ok (p.map negate) := by
  cases t with
  | leaf c =>
      refine ofTree_leaf_eq_ok.mpr ?_
      rcases ofTree_leaf_eq_ok.mp h with ⟨hmarker, rfl⟩ | ⟨hmarker, test, htest, rfl⟩
      · exact .inl ⟨hmarker, rfl⟩
      · exact .inr ⟨hmarker, test, htest, rfl⟩
  | node o l r n =>
      obtain ⟨left, right, hl, hr, rfl⟩ := ofTree_node_eq_ok.mp h
      exact ofTree_node_eq_ok.mpr ⟨left, right, hl, hr, (join_not o n left right).symm⟩

theorem ofTree_flipIf {t : Tree} (n : Bool) (h : ofTree engine caseSensitive t = .ok p) :
    ofTree engine caseSensitive (if n then t.flip else t) = .ok (p.map (·.negateIf n)) := by
  cases n with
  | false => simpa [negateIf] using h
  | true => exact ofTree_flip h

/-- Leaves that are sort markers make no difference to the predicate. -/
theorem ofTree_prune {keep : Term → Bool} {t : Tree} (h : ofTree engine caseSensitive t = .ok p)
    (hmarker : ∀ x ∈ t.terms, keep x = false → x.isSortMarker = true) :
    (t.prune keep = none ∧ p = none) ∨
      ∃ u, t.prune keep = some u ∧ ofTree engine caseSensitive u = .ok p := by
  induction t generalizing p with
  | leaf c =>
      cases hkeep : keep c.term with
      | true => exact .inr ⟨.leaf c, by simp [Tree.prune, hkeep], h⟩
      | false =>
          have hc : c.term.isSortMarker = true := hmarker c.term (by simp [Tree.terms]) hkeep
          rcases ofTree_leaf_eq_ok.mp h with ⟨-, rfl⟩ | ⟨hterm, -⟩
          · exact .inl ⟨by simp [Tree.prune, hkeep], rfl⟩
          · simp [hc] at hterm
  | node o l r n ihl ihr =>
      obtain ⟨left, right, hl, hr, rfl⟩ := ofTree_node_eq_ok.mp h
      rw [Tree.terms] at hmarker
      have ihl := ihl hl fun x hx => hmarker x (List.mem_append_left _ hx)
      have ihr := ihr hr fun x hx => hmarker x (List.mem_append_right _ hx)
      rw [Tree.prune]
      -- A side that goes had no predicate; the other side takes over the negation of the node.
      rcases ihl with ⟨hpl, rfl⟩ | ⟨l', hpl, hl'⟩
      · rw [hpl]
        rcases ihr with ⟨hpr, rfl⟩ | ⟨r', hpr, hr'⟩
        · rw [hpr]
          exact .inl ⟨rfl, rfl⟩
        · rw [hpr]
          refine .inr ⟨_, rfl, (ofTree_flipIf n hr').trans ?_⟩
          cases right <;> rfl
      · rw [hpl]
        refine .inr ?_
        rcases ihr with ⟨hpr, rfl⟩ | ⟨r', hpr, hr'⟩
        · rw [hpr]
          refine ⟨_, rfl, (ofTree_flipIf n hl').trans ?_⟩
          cases left <;> rfl
        · rw [hpr]
          exact ⟨_, rfl, ofTree_node_eq_ok.mpr ⟨left, right, hl', hr', rfl⟩⟩

end Predicate

/-! ## Queries -/

/-- The query without the conditions that do not count. -/
def Parsed.counted (rules : Rules) (query : Parsed) : Parsed :=
  { query with tree := query.tree.bind (·.prune (·.counts rules.dropZeroValues)) }

theorem RecordFilter.keeps_counted {rules : Rules} {query : Parsed} {engine : Engine} {caseSensitive : Bool}
    {f : RecordFilter} (hf : ofParsed caseSensitive query engine = .ok f)
    (hmarker : ∀ c ∈ uncountedOf rules.dropZeroValues query.tree, c.term.isSortMarker = true) :
    ∃ g, ofParsed caseSensitive (query.counted rules) engine = .ok g ∧
      ∀ record, g.keeps record = f.keeps record := by
  cases ht : query.tree with
  | none =>
      have htree : (query.counted rules).tree = none := by rw [Parsed.counted, ht]; rfl
      rw [ofParsed_of_no_tree ht] at hf
      obtain rfl := Except.ok.inj hf
      exact ⟨_, ofParsed_of_no_tree htree, fun record => rfl⟩
  | some t =>
      have hp := ofTree_of_ofParsed ht hf
      have hterm : ∀ x ∈ t.terms, x.counts rules.dropZeroValues = false → x.isSortMarker = true := by
        intro x hx hcounts
        rw [← t.map_term_conditionsWithin false] at hx
        obtain ⟨c, hc, rfl⟩ := List.mem_map.mp hx
        refine hmarker c ?_
        rw [ht]
        exact List.mem_filter.mpr ⟨hc, by simp [hcounts]⟩
      -- If no leaf is left, the filter tested nothing before: it keeps all records, as without a tree.
      rcases Predicate.ofTree_prune hp hterm with ⟨hprune, hnone⟩ | ⟨u, hprune, hu⟩
      · have htree : (query.counted rules).tree = none := by rw [Parsed.counted, ht]; exact hprune
        refine ⟨_, ofParsed_of_no_tree htree, ?_⟩
        intro record
        simp [keeps, hnone]
      · have htree : (query.counted rules).tree = some u := by rw [Parsed.counted, ht]; exact hprune
        exact ⟨_, ofParsed_of_tree htree hu, fun record => rfl⟩

/-- **Which conditions count.** A backend gives account of every condition of the tree that is not on
empty text, each once. These are the conditions of the query exactly if nothing else is left out of them;
and if all that is left out are sort markers, a record filter keeps the records it would keep without it. -/
theorem Parsed.accounted_compile_and_keeps (rules : Rules) (query : String) {σ F O : Type}
    (b : Backend σ F O) (s : σ) (engine : Engine) (caseSensitive : Bool) :
    let parsed := Parsed.ofQuery rules query
    let uncounted := uncountedOf rules.dropZeroValues parsed.tree
    let accounted := ((b.compile parsed).run s).1.accounted
    accounted.Perm (conditionsOf false parsed.tree) ∧
      (accounted.Perm parsed.conditions ↔ ∀ c ∈ uncounted, c.term.isEmpty = true) ∧
      ∀ f, RecordFilter.ofParsed caseSensitive parsed engine = .ok f →
        (∀ c ∈ uncounted, c.term.isSortMarker = true) →
        ∃ g, RecordFilter.ofParsed caseSensitive (parsed.counted rules) engine = .ok g ∧
          ∀ record, g.keeps record = f.keeps record := by
  intro parsed uncounted accounted
  have haccounted : accounted.Perm (conditionsOf false parsed.tree) := b.accounted_compile parsed s
  refine ⟨haccounted, ?_, fun f => RecordFilter.keeps_counted⟩
  rw [← perm_conditionsOf_iff]
  exact ⟨haccounted.symm.trans, haccounted.trans⟩

/-- A backend that takes every condition. -/
def Backend.taking : Backend Unit Nat Nat where
  condition c := return some c.position
  and m _ := return m
  or m _ := return m
  not m := return m

/-- A marker on empty text beside a zero that counts, `asc:"" OR (price:0 -title:hobbit)`. -/
theorem Parsed.accounted_compile_and_keeps_marker :
    let parsed := Parsed.ofQuery {} "asc:\"\" OR (price:0 -title:hobbit)"
    let record : Json := .object [("price", .number (.integer 0)), ("title", .string "Dune")]
    (uncountedOf false parsed.tree).map (·.position) = [0] ∧
      ((Backend.taking.compile parsed).run ()).1.accounted.Perm parsed.conditions ∧
      ∃ f g, RecordFilter.ofParsed false parsed = .ok f ∧
        RecordFilter.ofParsed false (parsed.counted {}) = .ok g ∧
        f.keeps record = true ∧ g.keeps record = f.keeps record := by
  intro parsed record
  have ht : parsed.tree = some (.node .or (.leaf ⟨.text (some "asc") .phrase "", 0, false⟩)
      (.node .and (.leaf ⟨.number "price" .colon (.ofNat 0), 11, false⟩)
        (.leaf ⟨.text (some "title") .word "hobbit", 20, true⟩) false) false) := by decide +kernel
  have hf := RecordFilter.ofParsed_of_tree ht (show Predicate.ofTree Regex.engine false _ = .ok _ from rfl)
  obtain ⟨-, hperm, hkeeps⟩ := Parsed.accounted_compile_and_keeps {}
    "asc:\"\" OR (price:0 -title:hobbit)" Backend.taking () Regex.engine false
  obtain ⟨g, hg, hsame⟩ := hkeeps _ hf (by decide +kernel)
  exact ⟨by decide +kernel, hperm.mpr (by decide +kernel), _, g, hf, hg, by decide +kernel,
    hsame record⟩

/-- With zeros left out, a backend still gives account of `price:0`; and a condition on empty text, which
never counts, makes a record filter drop a record without a title. -/
theorem Parsed.uncounted_accounted :
    let zero := Parsed.ofQuery { dropZeroValues := true } "price:0 title:a"
    let empty := Parsed.ofQuery {} "title:\"\" dragon"
    let record : Json := .object [("name", .string "dragon")]
    ¬((Backend.taking.compile zero).run ()).1.accounted.Perm zero.conditions ∧
      ∃ f g, RecordFilter.ofParsed false empty = .ok f ∧
        RecordFilter.ofParsed false (empty.counted {}) = .ok g ∧
        f.keeps record = false ∧ g.keeps record = true := by
  intro zero empty record
  have ht : empty.tree = some (.node .and (.leaf ⟨.text (some "title") .phrase "", 0, false⟩)
      (.leaf ⟨.text none .word "dragon", 9, false⟩) false) := by decide +kernel
  have hcounted : (empty.counted {}).tree =
      some (.leaf ⟨.text none .word "dragon", 9, false⟩) := by decide +kernel
  have hf := RecordFilter.ofParsed_of_tree ht (show Predicate.ofTree Regex.engine false _ = .ok _ from rfl)
  have hg := RecordFilter.ofParsed_of_tree hcounted
    (show Predicate.ofTree Regex.engine false _ = .ok _ from rfl)
  exact ⟨by decide +kernel, _, _, hf, hg, by decide +kernel, by decide +kernel⟩

end RecordQuery
