import RecordQuery.Proofs.Query.Cleanup
import RecordQuery.Proofs.Query.Placement
import RecordQuery.Proofs.Query.Spelling

/-!
# Printed trees

The text of a tree, with every node in parentheses, and the kinds of the tokens that this text ought
to be read as. Cleanup leaves these tokens alone, and the tree that they build is the one printed.
-/

namespace RecordQuery

/-- The text of a term: its key and comparison if it has them, and its value. -/
def Term.spelled : Term → List Char
  | text none form s => form.enclose s.toList
  | text (some key) form s => key.toList ++ ':' :: form.enclose s.toList
  | number key c x => key.toList ++ c.spelling.toList ++ x.plain.toList
  | date key c x => key.toList ++ c.spelling.toList ++ x.format.toList

namespace Connective

def joiner : Connective → Joiner
  | and => .and
  | or => .or

theorem ofJoiner_joiner (o : Connective) : ofJoiner o.joiner = o := by
  cases o <;> rfl

end Connective

namespace Tree

/-- The text of a tree: a hyphen before each negated term or group, and each node as a group. -/
def spelled : Tree → List Char
  | leaf c => (if c.negated then ['-'] else []) ++ c.term.spelled
  | node o l r n =>
    (if n then ['-', '('] else ['(']) ++ l.spelled ++ ' ' :: o.spelling.toList ++ ' ' :: r.spelled ++
      [')']

/-- The kinds of the tokens of a printed tree. -/
def kinds : Tree → List Token.Kind
  | leaf c => (if c.negated then [.negation] else []) ++ [.term c.term]
  | node o l r n => .openGroup n :: (l.kinds ++ .joiner o.joiner :: (r.kinds ++ [.closeGroup]))

/-! ## Cleanup -/

/-- A kind with which an operand may start. -/
def startsOperand (k : Token.Kind) : Bool := k.isOpenGroup || k.isNegation || k.isTerm

/-- A kind with which an operand may end. -/
def endsOperand (k : Token.Kind) : Bool := k.isCloseGroup || k.isTerm

theorem clash_of_startsOperand (k : Token.Kind) {l : Token.Kind} (h : startsOperand l = true) :
    Cleanup.clash k l = false := by
  cases l <;> simp_all [startsOperand, Cleanup.clash, Token.Kind.isOpenGroup,
    Token.Kind.isNegation, Token.Kind.isTerm, Token.Kind.isCloseGroup, Token.Kind.isJoiner]

theorem clash_of_endsOperand {k : Token.Kind} (h : endsOperand k = true) (l : Token.Kind) :
    Cleanup.clash k l = false := by
  cases k <;> simp_all [endsOperand, Cleanup.clash, Token.Kind.isOpenGroup,
    Token.Kind.isTerm, Token.Kind.isCloseGroup, Token.Kind.isJoiner]

theorem kinds_ne_nil (t : Tree) : t.kinds ≠ [] := by
  cases t <;> simp [kinds]

theorem startsOperand_of_head? (t : Tree) : ∀ k ∈ t.kinds.head?, startsOperand k = true := by
  intro k hk
  cases t with
  | leaf c => cases hc : c.negated <;> simp [kinds, hc] at hk <;> subst hk <;> rfl
  | node o l r n =>
      obtain rfl : .openGroup n = k := by simpa [kinds] using hk
      rfl

theorem endsOperand_of_getLast? (t : Tree) : ∀ k ∈ t.kinds.getLast?, endsOperand k = true := by
  intro k hk
  cases t with
  | leaf c =>
      obtain rfl : .term c.term = k := by simpa [kinds] using hk
      rfl
  | node o l r n =>
      have hsnoc : (node o l r n).kinds =
          (.openGroup n :: (l.kinds ++ .joiner o.joiner :: r.kinds)) ++ [.closeGroup] := by
        simp [kinds]
      have hlast : (node o l r n).kinds.getLast? = some .closeGroup := by
        rw [hsnoc, List.getLast?_concat]
      obtain rfl : .closeGroup = k := by simpa [hlast] using hk
      rfl

/-- No joiner of a printed tree lacks an operand, and no group is empty. -/
theorem isChain_kinds (t : Tree) : t.kinds.IsChain (Cleanup.clash · · = false) := by
  induction t with
  | leaf c => cases hc : c.negated <;> simp [kinds, hc, Cleanup.clash, Token.Kind.isOpenGroup,
      Token.Kind.isJoiner]
  | node o l r n ihl ihr =>
      have hright : (r.kinds ++ [Token.Kind.closeGroup]).IsChain (Cleanup.clash · · = false) := by
        refine List.isChain_append.mpr ⟨ihr, .singleton _, ?_⟩
        intro k hk k' _
        exact clash_of_endsOperand (endsOperand_of_getLast? r k hk) k'
      have hjoiner : (Token.Kind.joiner o.joiner :: (r.kinds ++ [.closeGroup])).IsChain
          (Cleanup.clash · · = false) := by
        refine List.isChain_cons.mpr ⟨?_, hright⟩
        intro k hk
        rw [List.head?_append_of_ne_nil _ r.kinds_ne_nil] at hk
        exact clash_of_startsOperand _ (startsOperand_of_head? r k hk)
      refine List.isChain_cons.mpr ⟨?_, List.isChain_append.mpr ⟨ihl, hjoiner, ?_⟩⟩
      · intro k hk
        rw [List.head?_append_of_ne_nil _ l.kinds_ne_nil] at hk
        exact clash_of_startsOperand _ (startsOperand_of_head? l k hk)
      · intro k hk k' _
        exact clash_of_endsOperand (endsOperand_of_getLast? l k hk) k'

/-! ## Building -/

/-- The tokens of a printed tree add the tree to the group that they stand in. -/
theorem foldl_step_kinds (t : Tree) (b : Builder) (hb : b.negate = false) :
    (Token.unplaced t.kinds).foldl Builder.step b =
      { b with current := b.current.attach t.unplaced } := by
  induction t generalizing b with
  | leaf c =>
      obtain ⟨current, outer, negate⟩ := b
      obtain rfl : negate = false := hb
      cases hc : c.negated <;>
        simp [Token.unplaced, kinds, hc, Builder.step, unplaced]
  | node o l r n ihl ihr =>
      obtain ⟨current, outer, negate⟩ := b
      obtain rfl : negate = false := hb
      have hopen : Builder.step ⟨current, outer, false⟩ ⟨.openGroup n, 0⟩ =
          ⟨{ negated := n }, current :: outer, false⟩ := by
        simp [Builder.step]
      have hjoiner : Builder.step ⟨⟨some l.unplaced, none, n⟩, current :: outer, false⟩
          ⟨.joiner o.joiner, 0⟩ = ⟨⟨some l.unplaced, some o, n⟩, current :: outer, false⟩ := by
        simp [Builder.step, Connective.ofJoiner_joiner]
      have hclose : Builder.step
          ⟨⟨some (node o l.unplaced r.unplaced false), none, n⟩, current :: outer, false⟩
          ⟨.closeGroup, 0⟩ = ⟨current.attach (node o l.unplaced r.unplaced n), outer, false⟩ := by
        cases n <;> rfl
      rw [kinds, Token.unplaced_cons, Token.unplaced_append, Token.unplaced_cons,
        Token.unplaced_append, List.foldl_cons, hopen, List.foldl_append, ihl _ rfl,
        List.foldl_cons]
      show List.foldl _ (Builder.step ⟨⟨some l.unplaced, none, n⟩, current :: outer, false⟩ _) _ = _
      rw [hjoiner, List.foldl_append, ihr _ rfl]
      exact hclose

/-- **Tokens of a printed tree.** They build the tree that was printed. -/
theorem ofTokens?_kinds (t : Tree) : Tree.ofTokens? (Token.unplaced t.kinds) = some t.unplaced := by
  rw [Tree.ofTokens?, foldl_step_kinds t {} rfl]
  rfl

end Tree

end RecordQuery
