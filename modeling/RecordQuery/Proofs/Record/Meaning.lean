import RecordQuery.Backend
import RecordQuery.Proofs.Record.Preparation

/-!
# One meaning of a tree

A record filter and the fold over a backend take the sort markers out of a tree each in its own way:
one moves the negation of a group to the side that is left, the other negates what is left of the
group. With the backend whose filters are predicates on records, both come to the same.
-/

namespace RecordQuery

variable {σ O : Type}

/-- The backend whose filters are predicates on records: a condition gives the test that a record
filter makes of it, without its negation, and filters are joined and negated record by record. -/
def Backend.ofTests (engine : Engine) (caseSensitive : Bool) (order : Condition → StateM σ (Option O)) :
    Backend σ (Json → Bool) O where
  condition c := return match Test.ofTerm engine caseSensitive c.position c.term with
    | .ok test => some (test.holds c.term.key?)
    | .error _ => none
  order := order
  and f g := return fun record => f record && g record
  or f g := return fun record => f record || g record
  not f := return fun record => !f record

/-- The records for which a predicate holds, if there is one. -/
def Predicate.meaning (p : Option Predicate) : Option (Json → Bool) :=
  p.map fun p record => p.eval record

namespace Backend

variable {engine : Engine} {caseSensitive : Bool} {order : Condition → StateM σ (Option O)}

/-! ## The filter of a fold -/

theorem filter_fold_leaf {F : Type} (b : Backend σ F O) (within : Bool) {c : Condition}
    (hempty : c.term.isEmpty = false) (s : σ) :
    ∃ s', (b.fold within (.leaf c) s).1.filter =
      (b.negateIf c.negated
        (b.ofCondition { c with negated := within || c.negated } s).1.filter s').1 := by
  simp only [fold, hempty]
  exact ⟨_, rfl⟩

theorem filter_fold_node {F : Type} (b : Backend σ F O) (within : Bool) (o : Connective)
    (l r : Tree) (n : Bool) (s : σ) :
    ∃ s₁ s₂ s₃, (b.fold within (.node o l r n) s).1.filter =
      (b.negateIf n
        (b.join o (b.fold (within || n) l s).1.filter (b.fold (within || n) r s₁).1.filter s₂).1
        s₃).1 :=
  ⟨_, _, _, rfl⟩

/-! ## Tests as filters -/

theorem negateIf_meaning (n : Bool) (p : Option Predicate) (s : σ) :
    (ofTests engine caseSensitive order).negateIf n (Predicate.meaning p) s =
      (Predicate.meaning (p.map (·.negateIf n)), s) := by
  cases p with
  | none => rfl
  | some p =>
      cases n with
      | false => rfl
      | true =>
          have hnegate : (fun record => !p.eval record) = fun record => p.negate.eval record :=
            funext fun record => (p.eval_negate record).symm
          show (some fun record => !p.eval record, s) = _
          rw [hnegate]
          rfl

theorem join_meaning (o : Connective) (l r : Option Predicate) (s : σ) :
    (ofTests engine caseSensitive order).join o (Predicate.meaning l) (Predicate.meaning r) s =
      (Predicate.meaning (Predicate.join o false l r), s) := by
  cases l with
  | none => cases r <;> rfl
  | some l =>
      cases r with
      | none => rfl
      | some r =>
          have heval : (fun record => o.eval (l.eval record) (r.eval record)) =
              fun record => (Predicate.node o l r false).eval record := by
            funext record
            simp [Predicate.eval]
          cases o <;>
            exact congrArg (fun f => (some f, s)) heval

theorem filter_ofCondition_marker {c : Condition} (h : c.term.isSortMarker = true) (n : Bool)
    (s : σ) :
    ((ofTests engine caseSensitive order).ofCondition { c with negated := n } s).1.filter = none := by
  simp only [ofCondition, h, if_true, bind, StateT.bind]
  cases (ofTests engine caseSensitive order).order { c with negated := n } s with
  | mk given s' => cases given <;> rfl

theorem filter_ofCondition_test {c : Condition} {test : Test} (h : c.term.isSortMarker = false)
    (htest : Test.ofTerm engine caseSensitive c.position c.term = .ok test) (n : Bool) (s : σ) :
    ((ofTests engine caseSensitive order).ofCondition { c with negated := n } s).1.filter =
      some (test.holds c.term.key?) := by
  have hcondition : (ofTests engine caseSensitive order).condition { c with negated := n } s =
      (some (test.holds c.term.key?), s) := by
    simp only [ofTests, htest]
    rfl
  simp only [ofCondition, h, Bool.false_eq_true, if_false, bind, StateT.bind, hcondition]
  rfl

/-- The fold over a leaf or node comes to the meaning of its predicate, whatever the state and the
groups around it. -/
theorem filter_fold {t : Tree} {p : Option Predicate} {within : Bool}
    (hp : Predicate.ofTree engine caseSensitive t = .ok p)
    (ht : ∀ c ∈ t.conditionsWithin within, c.term.isEmpty = false) (s : σ) :
    ((ofTests engine caseSensitive order).fold within t s).1.filter = Predicate.meaning p := by
  -- What surrounds a group reaches its conditions, but the tests leave negations out.
  induction t generalizing p within s with
  | leaf c =>
      have hempty : c.term.isEmpty = false :=
        ht { c with negated := within || c.negated } (by simp [Tree.conditionsWithin])
      obtain ⟨s', hfold⟩ := filter_fold_leaf (ofTests engine caseSensitive order) within hempty s
      rw [hfold]
      rcases Predicate.ofTree_leaf_eq_ok.mp hp with ⟨hmarker, rfl⟩ | ⟨hmarker, test, htest, rfl⟩
      · rw [filter_ofCondition_marker hmarker]
        rfl
      · have hone : (fun record => (Predicate.leaf c.term.key? test false).eval record) =
            test.holds c.term.key? := by
          funext record
          simp [Predicate.eval]
        have hleaf : (Predicate.leaf c.term.key? test false).negateIf c.negated =
            .leaf c.term.key? test c.negated := by
          cases c.negated <;> rfl
        rw [filter_ofCondition_test hmarker htest, ← hone]
        show ((ofTests engine caseSensitive order).negateIf c.negated
          (Predicate.meaning (some (.leaf c.term.key? test false))) s').1 = _
        rw [negateIf_meaning, Option.map_some, hleaf]
  | node o l r n ihl ihr =>
      obtain ⟨left, right, hleft, hright, rfl⟩ := Predicate.ofTree_node_eq_ok.mp hp
      rw [Tree.conditionsWithin] at ht
      have hl := ihl hleft fun c hc => ht c (List.mem_append_left _ hc)
      have hr := ihr hright fun c hc => ht c (List.mem_append_right _ hc)
      obtain ⟨s₁, s₂, s₃, hfold⟩ := filter_fold_node (ofTests engine caseSensitive order) within o l r n s
      rw [hfold, hl, hr, join_meaning, negateIf_meaning, ← Predicate.join_eq_map]

/-- **One meaning of a tree.** For every tree without a leaf on empty text whose patterns are sound, a
record filter keeps the records that satisfy the filter folded over the backend of its tests, and all
records if that fold leaves none. -/
theorem keeps_eq_compile (order : Condition → StateM σ (Option O)) (engine : Engine) (caseSensitive : Bool)
    (query : Parsed) (f : RecordFilter) (hf : RecordFilter.ofParsed caseSensitive query engine = .ok f)
    (htext : ∀ t ∈ query.tree, ∀ c ∈ t.conditions, c.term.isEmpty = false) (s : σ)
    (record : Json) :
    f.keeps record =
      (((ofTests engine caseSensitive order).compile query).run s).1.filter.all (fun p => p record) := by
  cases ht : query.tree with
  | none =>
      rw [RecordFilter.ofParsed_of_no_tree ht] at hf
      obtain rfl := Except.ok.inj hf
      rw [compile, ht]
      rfl
  | some t =>
      have hp := RecordFilter.ofTree_of_ofParsed ht hf
      rw [compile, ht]
      show f.predicate.all (·.eval record) =
        ((ofTests engine caseSensitive order).fold false t s).1.filter.all (fun p => p record)
      rw [filter_fold hp (htext t ht)]
      cases f.predicate <;> rfl

/-- A negated group that a marker leaves one side of, next to a negated leaf: the price is below 10, or
the title holds no `hobbit`. -/
theorem keeps_eq_compile_group :
    let tree : Tree := .node .or
      (.node .and (.leaf ⟨.text (some "asc") .word "title", 2, false⟩)
        (.leaf ⟨.number "price" .atLeast (.ofNat 10), 13, false⟩) true)
      (.leaf ⟨.text (some "title") .word "hobbit", 27, true⟩) false
    let query : Parsed := ⟨"", [], some tree, tree.conditions, []⟩
    let record : Json := .object [("price", .number (.integer 12)), ("title", .string "The Hobbit")]
    let order : Condition → StateM (List Condition) (Option Nat) :=
      fun c seen => (some c.position, c :: seen)
    ∃ f, RecordFilter.ofParsed false query = .ok f ∧
      (∀ t ∈ query.tree, ∀ c ∈ t.conditions, c.term.isEmpty = false) ∧
      f.keeps record = false ∧
      f.keeps record =
        (((ofTests Regex.engine false order).compile query).run []).1.filter.all (fun p => p record) := by
  exact ⟨_, rfl, by decide, by decide +kernel, keeps_eq_compile _ Regex.engine false _ _ rfl (by decide) [] _⟩

end Backend

end RecordQuery
