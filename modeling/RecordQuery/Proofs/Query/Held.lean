import RecordQuery.Proofs.Query.TakenOut

/-!
# Negations that are held

The builder holds a negation until it meets an operand. A group that is negated by its own sign does not
take it, so that it is held on inside the group. Before another negation, or where one is held anyway, a
negation changes nothing; before a group negated by its own sign it is read as the first token of the group.
-/

namespace RecordQuery

namespace Token

/-- Whether a negation is held after these tokens: one has been read, and since then neither a term nor a
sign of grouping, but for starts of groups negated by their own sign. -/
def negationHeld (before : List Token) : Bool :=
  (before.reverse.takeWhile fun t =>
    t.kind.isNegation || t.kind.isJoiner || t.kind == .openGroup true).any (·.kind.isNegation)

/-- Whether a negation is held after one more token. -/
def holdsAfter (held : Bool) (t : Token) : Bool :=
  t.kind.isNegation || ((t.kind.isJoiner || t.kind == .openGroup true) && held)

theorem negationHeld_append_singleton (before : List Token) (t : Token) :
    negationHeld (before ++ [t]) = t.holdsAfter (negationHeld before) := by
  rw [negationHeld, List.reverse_append, List.reverse_singleton, List.singleton_append,
    List.takeWhile_cons, holdsAfter]
  obtain ⟨kind, position⟩ := t
  cases kind with
  | term _ | closeGroup => rfl
  | joiner _ => simp [Kind.isNegation, Kind.isJoiner, negationHeld]
  | openGroup n => cases n <;> simp [Kind.isNegation, Kind.isJoiner, negationHeld]
  | negation => simp [Kind.isNegation]

/-- Whether a negation held in front of these tokens is let go or read again before it meets an operand:
of what is no joiner and starts no group negated by its own sign, the first is a negation or the end of a
group. -/
def letsGo (after : List Token) : Bool :=
  (after.find? fun t => !(t.kind.isJoiner || t.kind == .openGroup true)).all fun t =>
    t.kind.isNegation || t.kind.isCloseGroup

theorem letsGo_cons (t : Token) (after : List Token) :
    letsGo (t :: after) =
      if t.kind.isJoiner || t.kind == .openGroup true then letsGo after
      else t.kind.isNegation || t.kind.isCloseGroup := by
  rw [letsGo, List.find?_cons]
  cases t.kind.isJoiner || t.kind == .openGroup true <;> rfl

end Token

namespace Builder

open Token

/-! ## What the builder holds -/

theorem negate_step (b : Builder) (t : Token) : (b.step t).negate = t.holdsAfter b.negate := by
  obtain ⟨current, outer, negate⟩ := b
  obtain ⟨kind, position⟩ := t
  cases kind with
  | term x => rfl
  | joiner j =>
      obtain ⟨tree, waiting, negated⟩ := current
      cases tree <;> rfl
  | openGroup n => cases n <;> rfl
  | closeGroup => cases outer <;> rfl
  | negation => rfl

theorem negate_foldl (before : List Token) :
    (before.foldl step {}).negate = negationHeld before := by
  induction before using List.reverseRecOn with
  | nil => rfl
  | append_singleton before t ih =>
      rw [List.foldl_append, negationHeld_append_singleton, ← ih]
      exact negate_step _ t

/-- The builder as it is when it holds a negation. -/
def hold (b : Builder) : Builder := { b with negate := true }

theorem step_negation (b : Builder) (p : Nat) : b.step ⟨.negation, p⟩ = b.hold := rfl

theorem hold_of_negate {b : Builder} (h : b.negate = true) : b.hold = b := by
  rw [hold, ← h]

/-- A group that is negated by its own sign takes no other negation. -/
theorem step_hold_openGroup (b : Builder) (p : Nat) :
    b.hold.step ⟨.openGroup true, p⟩ = (b.step ⟨.openGroup true, p⟩).hold := rfl

/-- The tree of what has been read and of these tokens behind it. -/
def treeWith (b : Builder) (after : List Token) : Option Tree :=
  finish (after.foldl step b).current (after.foldl step b).outer

theorem treeWith_cons (b : Builder) (t : Token) (after : List Token) :
    b.treeWith (t :: after) = (b.step t).treeWith after := rfl

theorem ofTokens?_append (before after : List Token) :
    Tree.ofTokens? (before ++ after) = (before.foldl step {}).treeWith after := by
  rw [Tree.ofTokens?, List.foldl_append, treeWith]

/-- What lets go of a negation is read as without it. -/
theorem treeWith_hold {after : List Token} (h : letsGo after = true) {b : Builder}
    (hb : b.current.tree = none) : b.hold.treeWith after = b.treeWith after := by
  induction after generalizing b with
  | nil => rfl
  | cons t after ih =>
      rw [letsGo_cons] at h
      obtain ⟨kind, position⟩ := t
      cases kind with
      | term x => cases h
      | negation => rfl
      | closeGroup =>
          obtain ⟨current, outer, negate⟩ := b
          cases outer <;> rfl
      | joiner j =>
          have hstep : ∀ c : Builder, c.current.tree = none → c.step ⟨.joiner j, position⟩ = c := by
            intro c hc
            simp [step, hc]
          rw [treeWith_cons, treeWith_cons, hstep b hb, hstep b.hold hb]
          exact ih h hb
      | openGroup n =>
          cases n with
          | false => cases h
          | true =>
              rw [treeWith_cons, treeWith_cons, step_hold_openGroup]
              exact ih h rfl

end Builder

/-! ## Repeated negations -/

namespace Token

/-- Where the same is negated, the same conditions come. -/
theorem conditionsFrom_congr {before before' : List Token} (h : scope before = scope before')
    (after : List Token) : conditionsFrom before after = conditionsFrom before' after := by
  induction after generalizing before before' with
  | nil => rfl
  | cons t after ih =>
      have hstep : scope (before ++ [t]) = scope (before' ++ [t]) := by
        rw [scope_append_singleton, scope_append_singleton, h]
      rw [conditionsFrom, conditionsFrom, decide_negatedAfter, decide_negatedAfter, h, ih hstep]

/-- No term is negated by a repeated negation alone. -/
theorem conditionsFrom_negation_twice (before after : List Token) (p : Nat) {t : Token}
    (ht : t.kind = .negation ∨ t.kind = .openGroup true) :
    conditionsFrom [] (before ++ ⟨.negation, p⟩ :: t :: after) =
      conditionsFrom [] (before ++ t :: after) := by
  have hterm : t.term? = none := by
    rw [term?]
    rcases ht with ht | ht <;> rw [ht]
  have hscope : scope (before ++ [⟨.negation, p⟩] ++ [t]) = scope (before ++ [t]) := by
    rw [scope_append_singleton, scope_append_singleton, scope_append_singleton]
    obtain ⟨kind, position⟩ := t
    rcases ht with rfl | rfl <;> rfl
  rw [conditionsFrom_append, conditionsFrom_append, List.nil_append, conditionsFrom, conditionsFrom,
    conditionsFrom, hterm, conditionsFrom_congr hscope]
  rfl

end Token

/-- **Repeated negations.** One more negation before a negation changes nothing, and neither does one
before a group negated by its own sign if a negation is held there anyway, or would be let go in the group.
Before any other such group it is read as the first token of the group, where it may negate an operand, but
in no case does it change the conditions of the tree or how they are negated. -/
theorem Tree.ofTokens?_negation_twice (before after : List Token) (p : Nat) {t : Token}
    (ht : t.kind = .negation ∨ t.kind = .openGroup true) :
    (t.kind = .negation ∨ Token.negationHeld before = true ∨ Token.letsGo after = true →
      Tree.ofTokens? (before ++ ⟨.negation, p⟩ :: t :: after) = Tree.ofTokens? (before ++ t :: after)) ∧
    (t.kind = .openGroup true →
      Tree.ofTokens? (before ++ ⟨.negation, p⟩ :: t :: after) =
        Tree.ofTokens? (before ++ t :: ⟨.negation, p⟩ :: after)) ∧
    (Tree.ofTokens? (before ++ ⟨.negation, p⟩ :: t :: after)).elim [] Tree.conditions =
      (Tree.ofTokens? (before ++ t :: after)).elim [] Tree.conditions := by
  have hheld := Builder.negate_foldl before
  obtain ⟨kind, q⟩ := t
  rw [Builder.ofTokens?_append, Builder.ofTokens?_append, Builder.ofTokens?_append]
  refine ⟨?_, ?_, ?_⟩
  · rintro (rfl | hbefore | hafter)
    · rfl
    · rw [hbefore] at hheld
      rw [Builder.treeWith_cons, Builder.step_negation, Builder.hold_of_negate hheld]
    · rcases ht with rfl | rfl
      · rfl
      · rw [Builder.treeWith_cons, Builder.treeWith_cons, Builder.step_negation,
          Builder.step_hold_openGroup]
        exact Builder.treeWith_hold hafter rfl
  · rintro rfl
    rfl
  · rw [← Builder.ofTokens?_append, ← Builder.ofTokens?_append, conditions_ofTokens?,
      conditions_ofTokens?]
    exact Token.conditionsFrom_negation_twice before after p ht

/-- Where a negation is held in front of the group: `- - -(a b)`. -/
theorem Tree.ofTokens?_negation_twice_held :
    let group : List Token := [⟨.openGroup true, 4⟩, ⟨.term (.text none .word "a"), 6⟩,
      ⟨.term (.text none .word "b"), 8⟩, ⟨.closeGroup, 9⟩]
    Token.negationHeld [⟨.negation, 0⟩] = true ∧
      Tree.ofTokens? (⟨.negation, 0⟩ :: ⟨.negation, 2⟩ :: group) =
        Tree.ofTokens? (⟨.negation, 0⟩ :: group) :=
  ⟨rfl, (Tree.ofTokens?_negation_twice [⟨.negation, 0⟩] _ 2 (.inr rfl)).1 (.inr (.inl rfl))⟩

/-- Before the group alone it negates the first operand: `- -(a b)` is not `-(a b)`. -/
theorem Tree.ofTokens?_negation_in_group :
    let group : List Token := [⟨.openGroup true, 2⟩, ⟨.term (.text none .word "a"), 4⟩,
      ⟨.term (.text none .word "b"), 6⟩, ⟨.closeGroup, 7⟩]
    let tree (negated : Bool) : Tree := .node .and (.leaf ⟨.text none .word "a", 4, negated⟩)
      (.leaf ⟨.text none .word "b", 6, false⟩) true
    Tree.ofTokens? group = some (tree false) ∧
      Tree.ofTokens? (⟨.negation, 0⟩ :: group) = some (tree true) ∧ tree true ≠ tree false := by
  decide

end RecordQuery
