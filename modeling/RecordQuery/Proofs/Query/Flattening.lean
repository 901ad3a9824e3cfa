import RecordQuery.Proofs.Query.Negation
import RecordQuery.Query.Builder
import RecordQuery.Query.Condition

/-!
# Conditions read off the tokens

The conditions of a tree can be told from the tokens without building it: one for each term, in
order, negated where the term is. A group that ends hands its conditions to the group around it, so
that the stack of open groups holds at every step the conditions of all terms read so far.
-/

namespace RecordQuery

/-- The conditions of tokens that come after the tokens `before`. -/
def Token.conditionsFrom (before : List Token) : List Token → List Condition
  | [] => []
  | t :: after =>
    (t.term?.map (⟨·, t.position, decide (NegatedAfter before)⟩)).toList ++
      conditionsFrom (before ++ [t]) after

theorem Tree.conditionsWithin_negateIf (t : Tree) (n within : Bool) :
    (t.negateIf n).conditionsWithin within = t.conditionsWithin (within || n) := by
  cases n <;> cases t <;> simp [Tree.negateIf, Tree.negate, Tree.conditionsWithin]

namespace Builder

/-! ## Conditions of a stack -/

/-- The conditions of the operands so far, within groups that are negated if `within` holds. -/
def Frame.conditions (within : Bool) (f : Frame) : List Condition :=
  f.tree.elim [] (Tree.conditionsWithin within)

/-- The conditions of a stack of open groups, the innermost last. -/
def stackConditions : List Frame → List Condition
  | [] => []
  | f :: outer => stackConditions outer ++ f.conditions ((f :: outer).any (·.negated))

@[simp] theorem Frame.negated_attach (f : Frame) (t : Tree) : (f.attach t).negated = f.negated := by
  obtain ⟨tree, waiting, negated⟩ := f
  cases tree <;> rfl

@[simp] theorem Frame.negated_close (f outer : Frame) :
    (f.close outer).negated = outer.negated := by
  obtain ⟨tree, waiting, negated⟩ := f
  cases tree with
  | none => rfl
  | some t => exact outer.negated_attach _

theorem Frame.conditions_attach (within : Bool) (f : Frame) (t : Tree) :
    (f.attach t).conditions within = f.conditions within ++ t.conditionsWithin within := by
  obtain ⟨tree, waiting, negated⟩ := f
  cases tree <;> simp [attach, Frame.conditions, Tree.conditionsWithin]

theorem Frame.conditions_close (within : Bool) (f outer : Frame) :
    (f.close outer).conditions within =
      outer.conditions within ++ f.conditions (within || f.negated) := by
  obtain ⟨tree, waiting, negated⟩ := f
  cases tree with
  | none => simp [close, Frame.conditions]
  | some t =>
      show (outer.attach (t.negateIf negated)).conditions within = _
      rw [conditions_attach, Tree.conditionsWithin_negateIf]
      rfl

/-- A group that ends keeps its conditions, and how they are negated. -/
theorem stackConditions_close (f g : Frame) (outer : List Frame) :
    stackConditions (f.close g :: outer) = stackConditions (f :: g :: outer) := by
  rw [stackConditions, stackConditions, stackConditions, Frame.conditions_close, List.append_assoc]
  have hwithin : ((f :: g :: outer).any (·.negated)) =
      ((g :: outer).any (·.negated) || f.negated) := by
    rw [List.any_cons, Bool.or_comm]
  rw [hwithin]
  simp

theorem stackConditions_attach (f : Frame) (t : Tree) (outer : List Frame) :
    stackConditions (f.attach t :: outer) =
      stackConditions (f :: outer) ++ t.conditionsWithin ((f :: outer).any (·.negated)) := by
  rw [stackConditions, stackConditions, Frame.conditions_attach, List.append_assoc]
  simp

/-! ## One token -/

/-- The open groups, from the inside out. -/
def frames (b : Builder) : List Frame := b.current :: b.outer

/-- Whether a term read next is negated, in its own right or by a group around it. -/
def negates (b : Builder) : Bool := b.negate || b.frames.any (·.negated)

/-- A term adds its condition, and no other token adds or changes any. -/
theorem stackConditions_step (b : Builder) (t : Token) :
    stackConditions (b.step t).frames =
      stackConditions b.frames ++ (t.term?.map (⟨·, t.position, b.negates⟩)).toList := by
  obtain ⟨current, outer, negate⟩ := b
  obtain ⟨kind, position⟩ := t
  cases kind with
  | term x =>
      show stackConditions (current.attach _ :: outer) = _
      rw [stackConditions_attach]
      simp [Tree.conditionsWithin, Token.term?, negates, frames, Bool.or_comm]
  | joiner j =>
      obtain ⟨tree, waiting, negated⟩ := current
      cases tree <;> simp [step, frames, stackConditions, Frame.conditions, Token.term?]
  | openGroup n => simp [step, frames, stackConditions, Frame.conditions, Token.term?]
  | closeGroup =>
      cases outer with
      | nil => simp [step, frames, Token.term?]
      | cons g outer => simp [step, frames, stackConditions_close, Token.term?]
  | negation => simp [step, frames, Token.term?]

/-! ## Negated groups

A negation in front of a group that is negated by its own sign waits on inside the group. It marks
other terms and groups than the scope of the tokens does, but only such as the group negates
anyway. -/

/-- A stack of open groups against the groups of a scope: from each group outward, one side holds a
negated group if the other does. The query around them is not negated. -/
inductive Covers : List Frame → List Bool → Prop where
  | query {f : Frame} (h : f.negated = false) : Covers [f] []
  | group {f : Frame} {outer : List Frame} {n : Bool} {groups : List Bool}
      (houter : Covers outer groups)
      (h : (f :: outer).any (·.negated) = (n :: groups).any id) : Covers (f :: outer) (n :: groups)

theorem Covers.any_eq {frames : List Frame} {groups : List Bool} (h : Covers frames groups) :
    frames.any (·.negated) = groups.any id := by
  cases h with
  | query h => simp [h]
  | group houter h => exact h

/-- Operands do not matter. -/
theorem Covers.congr {f g : Frame} {outer : List Frame} {groups : List Bool}
    (h : Covers (f :: outer) groups) (hneg : g.negated = f.negated) :
    Covers (g :: outer) groups := by
  cases h with
  | query h => exact .query (hneg.trans h)
  | group houter h => exact .group houter (by rw [← h, List.any_cons, List.any_cons, hneg])

/-- The builder negates what the scope negates, here and around every open group. -/
structure Agrees (b : Builder) (s : Token.Scope) : Prop where
  covers : Covers b.frames s.groups
  negates : b.negates = s.negates

theorem Agrees.step {b : Builder} {s : Token.Scope} (h : Agrees b s) (t : Token) :
    Agrees (b.step t) (s.step t) := by
  obtain ⟨current, outer, negate⟩ := b
  obtain ⟨groups, waits⟩ := s
  obtain ⟨kind, position⟩ := t
  obtain ⟨hcovers, hnegates⟩ := h
  have hany := hcovers.any_eq
  cases kind with
  | term x =>
      have hcovers' : Covers (current.attach (.leaf ⟨x, position, negate⟩) :: outer) groups :=
        hcovers.congr (current.negated_attach _)
      exact ⟨hcovers', hcovers'.any_eq⟩
  | joiner j =>
      obtain ⟨tree, waiting, negated⟩ := current
      cases tree with
      | none => exact ⟨hcovers, hnegates⟩
      | some t => exact ⟨hcovers.congr rfl, hnegates⟩
  | openGroup n =>
      have hnegates' : (negate || (current :: outer).any (·.negated)) = (waits || groups.any id) :=
        hnegates
      have hgroup : ((n || negate) || (current :: outer).any (·.negated)) =
          ((n || waits) || groups.any id) := by
        rw [Bool.or_assoc, hnegates', Bool.or_assoc]
      refine ⟨.group hcovers hgroup, ?_⟩
      show ((n && negate) || ((n || negate) || (current :: outer).any (·.negated))) =
        (false || ((n || waits) || groups.any id))
      -- A negation that goes on waiting is in a group that is negated itself.
      rw [← hgroup]
      cases n <;> simp
  | closeGroup =>
      cases outer with
      | nil =>
          cases hcovers with
          | query hquery => exact ⟨.query hquery, hany⟩
          | group houter _ => cases houter
      | cons g outer =>
          cases hcovers with
          | group houter _ =>
              have hcovers' := houter.congr (current.negated_close g)
              exact ⟨hcovers', hcovers'.any_eq⟩
  | negation => exact ⟨hcovers, rfl⟩

theorem agrees_foldl (tokens : List Token) :
    Agrees (tokens.foldl step {}) (Token.scope tokens) := by
  induction tokens using List.reverseRecOn with
  | nil => exact ⟨.query rfl, rfl⟩
  | append_singleton tokens t ih =>
      rw [List.foldl_append, Token.scope_append_singleton]
      exact ih.step t

/-! ## All tokens -/

/-- The tokens `after` add the conditions that can be read off them. -/
theorem stackConditions_foldl (before after : List Token) :
    stackConditions ((before ++ after).foldl step {}).frames =
      stackConditions (before.foldl step {}).frames ++ Token.conditionsFrom before after := by
  induction after generalizing before with
  | nil => rw [List.append_nil, Token.conditionsFrom, List.append_nil]
  | cons t after ih =>
      have hnegates : (before.foldl step {}).negates = decide (Token.NegatedAfter before) := by
        rw [(agrees_foldl before).negates]
        exact Bool.eq_iff_iff.mpr ((Token.negates_scope before).trans decide_eq_true_iff.symm)
      have hstep : stackConditions ((before ++ [t]).foldl step {}).frames =
          stackConditions (before.foldl step {}).frames ++
            (t.term?.map (⟨·, t.position, decide (Token.NegatedAfter before)⟩)).toList := by
        rw [List.foldl_append, ← hnegates]
        exact stackConditions_step _ t
      rw [List.append_cons, ih, hstep, List.append_assoc]
      rfl

/-- Closing the open groups keeps all conditions. -/
theorem conditions_finish (f : Frame) (outer : List Frame) {groups : List Bool}
    (h : Covers (f :: outer) groups) :
    (finish f outer).elim [] Tree.conditions = stackConditions (f :: outer) := by
  induction outer generalizing f groups with
  | nil =>
      have hquery : f.negated = false := by
        cases h with
        | query h => exact h
        | group houter _ => cases houter
      rw [stackConditions, stackConditions, List.any_cons, hquery]
      rfl
  | cons g outer ih =>
      cases h with
      | group houter _ =>
          rw [finish, ih _ (houter.congr (f.negated_close g)), stackConditions_close]

end Builder

/-- A tree has the conditions that can be read off its tokens. -/
theorem Tree.conditions_ofTokens? (tokens : List Token) :
    (Tree.ofTokens? tokens).elim [] Tree.conditions = Token.conditionsFrom [] tokens := by
  have hfold := Builder.stackConditions_foldl [] tokens
  have hfinish := Builder.conditions_finish _ _ (Builder.agrees_foldl tokens).covers
  exact hfinish.trans hfold

theorem Tree.conditionsWithin_ne_nil (t : Tree) (within : Bool) :
    t.conditionsWithin within ≠ [] := by
  induction t generalizing within with
  | leaf c => exact List.cons_ne_nil _ _
  | node o l r n ihl ihr => exact List.append_ne_nil_of_left_ne_nil (ihl _) _

theorem Token.conditionsFrom_eq_nil_iff (before after : List Token) :
    conditionsFrom before after = [] ↔ ∀ t ∈ after, t.kind.isTerm = false := by
  induction after generalizing before with
  | nil => simp [conditionsFrom]
  | cons t after ih =>
      obtain ⟨kind, position⟩ := t
      cases kind <;> simp [conditionsFrom, term?, Kind.isTerm, ih]

/-- Only tokens without a term have no tree. -/
theorem Tree.ofTokens?_eq_none (tokens : List Token) :
    Tree.ofTokens? tokens = none ↔ ∀ t ∈ tokens, t.kind.isTerm = false := by
  rw [← Token.conditionsFrom_eq_nil_iff [] tokens, ← Tree.conditions_ofTokens?]
  cases Tree.ofTokens? tokens with
  | none => simp
  | some t => simp [Tree.conditions, conditionsWithin_ne_nil]

/-- **The conditions of a query.** They are those of the terms of its tokens, in order and each
negated where its term is, without those on empty text and, if zeros are dropped, on zero. -/
theorem conditionsOf_ofTokens? (dropZero : Bool) (tokens : List Token) :
    conditionsOf dropZero (Tree.ofTokens? tokens) =
      (Token.conditionsFrom [] tokens).filter fun c =>
        !c.term.isEmpty && !(dropZero && c.term.isZero) := by
  have hcounts : (fun c : Condition => !c.term.isEmpty && !(dropZero && c.term.isZero)) =
      (·.term.counts dropZero) := by
    funext c
    rw [Term.counts, Bool.not_or]
  rw [hcounts, ← Tree.conditions_ofTokens?]
  cases Tree.ofTokens? tokens <;> rfl

/-- A negated group negates its terms, and no term after it: `-(a - b) c`. -/
example :
    (Token.conditionsFrom [] [⟨.openGroup true, 0⟩, ⟨.term (.text none .word "a"), 2⟩,
      ⟨.negation, 4⟩, ⟨.term (.text none .word "b"), 6⟩, ⟨.closeGroup, 7⟩,
      ⟨.term (.text none .word "c"), 9⟩]).map Condition.negated = [true, true, false] := by
  decide

end RecordQuery
