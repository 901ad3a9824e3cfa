import RecordQuery.Proofs.Query.Flattening

/-!
# Groups read by recursion

A query can also be read by recursion on its groups: a group is a row of operands, an operand is a
term or a group, and a row is joined from left to right. The builder, which keeps the open groups on
a stack, reads every list of tokens the same way, whether its groups are balanced or not.
-/

namespace RecordQuery

/-- The tokens after the end of the group that these tokens start in, when `depth` groups are open
inside it. Each end of a group ends the innermost open one. -/
def Token.afterGroup : Nat → List Token → List Token
  | _, [] => []
  | 0, ⟨.closeGroup, _⟩ :: rest => rest
  | depth + 1, ⟨.closeGroup, _⟩ :: rest => afterGroup depth rest
  | depth, ⟨.openGroup _, _⟩ :: rest => afterGroup (depth + 1) rest
  | depth, _ :: rest => afterGroup depth rest

theorem Token.afterGroup_suffix (depth : Nat) (tokens : List Token) :
    afterGroup depth tokens <:+ tokens := by
  fun_induction afterGroup depth tokens with
  | case1 => exact List.suffix_refl _
  | case2 rest => exact List.suffix_cons _ _
  | case3 depth p rest ih => exact ih.trans (List.suffix_cons _ _)
  | case4 depth n p rest ih => exact ih.trans (List.suffix_cons _ _)
  | case5 depth t rest _ _ _ ih => exact ih.trans (List.suffix_cons _ _)

/-- An operand of a group, with the last joiner in the group since the operand before it. -/
structure Operand where
  joiner : Option Connective
  tree : Tree

namespace Operand

/-- The operand joined to those before it, by AND if no joiner stands between. -/
def joinTo (o : Operand) : Option Tree → Tree
  | some left => .node (o.joiner.getD .and) left o.tree false
  | none => o.tree

/-- Operands joined from left to right, after those joined before. -/
def join (left : Option Tree) (operands : List Operand) : Option Tree :=
  operands.foldl (fun left o => some (o.joinTo left)) left

end Operand

/-- The operands of the group that the tokens start in, or with `nested` false those of the query,
in which the end of a group ends nothing. A negation counts for the operand that follows it with no
term or sign of grouping between, and a joiner for the operand that comes next. -/
def Token.operands (nested negate : Bool) (joiner : Option Connective) : List Token → List Operand
  | [] => []
  | ⟨.term x, p⟩ :: rest => ⟨joiner, .leaf ⟨x, p, negate⟩⟩ :: operands nested false none rest
  | ⟨.negation, _⟩ :: rest => operands nested true joiner rest
  | ⟨.joiner j, _⟩ :: rest => operands nested negate (some (.ofJoiner j)) rest
  | ⟨.closeGroup, _⟩ :: rest => if nested then [] else operands nested false joiner rest
  | ⟨.openGroup n, _⟩ :: rest =>
    match Operand.join none (operands true false none rest) with
    | some t => ⟨joiner, t.negateIf (n || negate)⟩ :: operands nested false none (afterGroup 0 rest)
    | none => operands nested false joiner (afterGroup 0 rest)
termination_by tokens => tokens.length
decreasing_by
  all_goals have hlength := (afterGroup_suffix 0 rest).length_le
  all_goals simp only [List.length_cons]
  all_goals omega

/-- The tree of the query, read by recursion. -/
def Tree.read? (tokens : List Token) : Option Tree :=
  Operand.join none (Token.operands false false none tokens)

/-- The way out of nested groups leads out of the inner ones first. -/
theorem Token.afterGroup_afterGroup (depth inner : Nat) (tokens : List Token) :
    afterGroup depth (afterGroup inner tokens) = afterGroup (depth + inner + 1) tokens := by
  induction tokens generalizing inner with
  | nil => rfl
  | cons t rest ih =>
      obtain ⟨kind, position⟩ := t
      cases kind with
      | closeGroup =>
          cases inner with
          | zero => rfl
          | succ inner => exact ih inner
      | openGroup n => exact ih (inner + 1)
      | term x => exact ih inner
      | joiner j => exact ih inner
      | negation => exact ih inner

namespace Builder

/-! ## Groups on the stack -/

/-- The tree of what has been read, with all open groups closed. -/
def tree? (b : Builder) : Option Tree := finish b.current b.outer

/-- The group with more operands joined to those it has. -/
def Frame.extend (f : Frame) (operands : List Operand) : Frame :=
  { f with tree := Operand.join f.tree operands }

theorem Frame.tree_attach (f : Frame) (t : Tree) {joiner : Option Connective}
    (hwaiting : f.tree.isSome → f.waiting = joiner) :
    (f.attach t).tree = some (Operand.joinTo ⟨joiner, t⟩ f.tree) := by
  obtain ⟨tree, waiting, negated⟩ := f
  cases tree with
  | none => rfl
  | some left =>
      obtain rfl : waiting = joiner := hwaiting rfl
      rfl

theorem Frame.waiting_attach (f : Frame) (t : Tree) : (f.attach t).waiting = none := by
  obtain ⟨tree, waiting, negated⟩ := f
  cases tree <;> rfl

/-- What a group leaves at its end depends on its operands and on whether it is negated. -/
theorem Frame.close_congr {f g : Frame} (htree : f.tree = g.tree) (hneg : f.negated = g.negated)
    (outer : Frame) : f.close outer = g.close outer := by
  rw [close, close, htree, hneg]

theorem Frame.close_extend_congr {f g : Frame} (htree : f.tree = g.tree)
    (hneg : f.negated = g.negated) (operands : List Operand) (outer : Frame) :
    (f.extend operands).close outer = (g.extend operands).close outer := by
  have htree' : (f.extend operands).tree = (g.extend operands).tree := by
    show Operand.join f.tree operands = Operand.join g.tree operands
    rw [htree]
  exact close_congr htree' hneg outer

/-- A group with one more operand, extended. -/
theorem Frame.close_extend_attach (f : Frame) (t : Tree) {joiner : Option Connective}
    (hwaiting : f.tree.isSome → f.waiting = joiner) (operands : List Operand) (outer : Frame) :
    ((f.attach t).extend operands).close outer =
      (f.extend (⟨joiner, t⟩ :: operands)).close outer := by
  have htree : ((f.attach t).extend operands).tree =
      (f.extend (⟨joiner, t⟩ :: operands)).tree := by
    rw [extend, extend, f.tree_attach t hwaiting]
    rfl
  have hneg : ((f.attach t).extend operands).negated =
      (f.extend (⟨joiner, t⟩ :: operands)).negated := f.negated_attach t
  exact close_congr htree hneg outer

/-- A group with operands is an operand of the group around it, negated or not. -/
theorem Frame.close_extend_of_some {operands : List Operand} {t : Tree}
    (h : Operand.join none operands = some t) (n : Bool) (outer : Frame) :
    (({ negated := n } : Frame).extend operands).close outer = outer.attach (t.negateIf n) := by
  rw [extend, h]
  rfl

/-- A group without operands is none. -/
theorem Frame.close_extend_of_none {operands : List Operand}
    (h : Operand.join none operands = none) (n : Bool) (outer : Frame) :
    (({ negated := n } : Frame).extend operands).close outer = outer := by
  rw [extend, h]
  rfl

/-- A joiner waits for the next operand, and without an operand before it is lost. -/
theorem step_joiner (f : Frame) (outer : List Frame) (negate : Bool) (j : Joiner) (p : Nat) :
    ∃ f' : Frame, step ⟨f, outer, negate⟩ ⟨.joiner j, p⟩ = ⟨f', outer, negate⟩ ∧
      f'.tree = f.tree ∧ f'.negated = f.negated ∧
        (f'.tree.isSome → f'.waiting = some (.ofJoiner j)) := by
  obtain ⟨tree, waiting, negated⟩ := f
  cases tree with
  | none => exact ⟨_, rfl, rfl, rfl, nofun⟩
  | some left => exact ⟨_, rfl, rfl, rfl, fun _ => rfl⟩

/-- A group that is not negated twice takes a waiting negation over. -/
theorem step_openGroup (f : Frame) (outer : List Frame) {n negate : Bool} (p : Nat)
    (honce : (n && negate) = false) :
    step ⟨f, outer, negate⟩ ⟨.openGroup n, p⟩ =
      ⟨{ negated := n || negate }, f :: outer, false⟩ := by
  show Builder.mk { negated := n || negate } (f :: outer) (n && negate) = _
  rw [honce]

/-- **Inside a group.** From anywhere in a group, the builder goes on after the group with the
operands of the group, as if they had been read by recursion. -/
theorem tree?_foldl_group {nested : Bool} (hnested : nested = true) (negate : Bool)
    (joiner : Option Connective) (tokens : List Token)
    (honce : Token.signedOnceFrom negate tokens = true) (f g : Frame) (outer : List Frame)
    (hwaiting : f.tree.isSome → f.waiting = joiner) :
    tree? (tokens.foldl step ⟨f, g :: outer, negate⟩) =
      tree? ((Token.afterGroup 0 tokens).foldl step
        ⟨(f.extend (Token.operands nested negate joiner tokens)).close g, outer, false⟩) := by
  induction nested, negate, joiner, tokens using Token.operands.induct generalizing f g outer with
  | case1 nested negate joiner =>
      rw [Token.operands]
      rfl
  | case2 nested negate joiner x p rest ih =>
      rw [Token.signedOnceFrom, Bool.and_eq_true] at honce
      rw [Token.operands, ← f.close_extend_attach _ hwaiting]
      exact ih hnested honce.2 _ g outer fun _ => f.waiting_attach _
  | case3 nested negate joiner p rest ih =>
      rw [Token.signedOnceFrom, Bool.and_eq_true] at honce
      rw [Token.operands]
      exact ih hnested honce.2 f g outer hwaiting
  | case4 nested negate joiner j p rest ih =>
      rw [Token.signedOnceFrom, Bool.and_eq_true] at honce
      obtain ⟨f', hstep, htree, hneg, hwaiting'⟩ := step_joiner f (g :: outer) negate j p
      rw [Token.operands, List.foldl_cons, hstep, ← Frame.close_extend_congr htree hneg]
      exact ih hnested honce.2 f' g outer hwaiting'
  | case5 negate joiner p rest =>
      -- The group ends here, and what follows is after it.
      rw [Token.operands]
      rfl
  | case6 nested negate joiner p rest hnot ih => exact absurd hnested hnot
  | case7 nested negate joiner n p rest t hinside ihinside ihafter =>
      -- The stack is one group deeper inside, and as deep as before after that.
      obtain ⟨honce, hrest⟩ := Token.signedOnceFrom_openGroup honce
      have hafter := Token.signedOnceFrom_of_suffix hrest (Token.afterGroup_suffix 0 rest)
      rw [List.foldl_cons, step_openGroup f (g :: outer) p honce,
        ihinside rfl hrest { negated := n || negate } f (g :: outer) (fun _ => rfl),
        Frame.close_extend_of_some hinside,
        ihafter hnested hafter _ g outer fun _ => f.waiting_attach _, Token.afterGroup_afterGroup,
        f.close_extend_attach _ hwaiting, Token.operands, hinside]
      rfl
  | case8 nested negate joiner n p rest hinside ihinside ihafter =>
      obtain ⟨honce, hrest⟩ := Token.signedOnceFrom_openGroup honce
      have hafter := Token.signedOnceFrom_of_suffix hrest (Token.afterGroup_suffix 0 rest)
      rw [List.foldl_cons, step_openGroup f (g :: outer) p honce,
        ihinside rfl hrest { negated := n || negate } f (g :: outer) (fun _ => rfl),
        Frame.close_extend_of_none hinside, ihafter hnested hafter f g outer hwaiting,
        Token.afterGroup_afterGroup, Token.operands, hinside]
      rfl

/-- From the start of a group, the builder goes on after it, with the group as an operand if it has any
itself. -/
theorem tree?_foldl_openGroup (f : Frame) (outer : List Frame) {n negate : Bool} {p : Nat}
    {rest : List Token}
    (honce : Token.signedOnceFrom negate (⟨.openGroup n, p⟩ :: rest) = true) :
    tree? ((⟨.openGroup n, p⟩ :: rest : List Token).foldl step ⟨f, outer, negate⟩) =
      tree? ((Token.afterGroup 0 rest).foldl step
        ⟨(({ negated := n || negate } : Frame).extend
          (Token.operands true false none rest)).close f, outer, false⟩) := by
  obtain ⟨honce, hrest⟩ := Token.signedOnceFrom_openGroup honce
  rw [List.foldl_cons, step_openGroup f outer p honce]
  exact tree?_foldl_group rfl false none rest hrest _ f outer fun _ => rfl

/-- **Outside all groups.** The builder joins the operands of the query to those it has. -/
theorem tree?_foldl_query {nested : Bool} (hnested : nested = false) (negate : Bool)
    (joiner : Option Connective) (tokens : List Token)
    (honce : Token.signedOnceFrom negate tokens = true) (f : Frame)
    (hwaiting : f.tree.isSome → f.waiting = joiner) :
    tree? (tokens.foldl step ⟨f, [], negate⟩) =
      Operand.join f.tree (Token.operands nested negate joiner tokens) := by
  induction nested, negate, joiner, tokens using Token.operands.induct generalizing f with
  | case1 nested negate joiner =>
      rw [Token.operands]
      rfl
  | case2 nested negate joiner x p rest ih =>
      rw [Token.signedOnceFrom, Bool.and_eq_true] at honce
      have hrest := ih hnested honce.2 (f.attach (.leaf ⟨x, p, negate⟩)) fun _ => f.waiting_attach _
      rw [f.tree_attach _ hwaiting] at hrest
      rw [Token.operands]
      exact hrest
  | case3 nested negate joiner p rest ih =>
      rw [Token.signedOnceFrom, Bool.and_eq_true] at honce
      rw [Token.operands]
      exact ih hnested honce.2 f hwaiting
  | case4 nested negate joiner j p rest ih =>
      rw [Token.signedOnceFrom, Bool.and_eq_true] at honce
      obtain ⟨f', hstep, htree, -, hwaiting'⟩ := step_joiner f [] negate j p
      rw [Token.operands, List.foldl_cons, hstep, ← htree]
      exact ih hnested honce.2 f' hwaiting'
  | case5 negate joiner p rest => cases hnested
  | case6 nested negate joiner p rest hnot ih =>
      rw [Token.signedOnceFrom, Bool.and_eq_true] at honce
      rw [Token.operands, if_neg hnot]
      exact ih hnested honce.2 f hwaiting
  | case7 nested negate joiner n p rest t hinside ihinside ihafter =>
      have hrest := (Token.signedOnceFrom_openGroup honce).2
      have hafter := Token.signedOnceFrom_of_suffix hrest (Token.afterGroup_suffix 0 rest)
      rw [tree?_foldl_openGroup f [] honce, Frame.close_extend_of_some hinside,
        ihafter hnested hafter _ fun _ => f.waiting_attach _, f.tree_attach _ hwaiting,
        Token.operands, hinside]
      rfl
  | case8 nested negate joiner n p rest hinside ihinside ihafter =>
      have hrest := (Token.signedOnceFrom_openGroup honce).2
      have hafter := Token.signedOnceFrom_of_suffix hrest (Token.afterGroup_suffix 0 rest)
      rw [tree?_foldl_openGroup f [] honce, Frame.close_extend_of_none hinside,
        ihafter hnested hafter f hwaiting, Token.operands, hinside]

end Builder

/-- **The builder reads by recursion.** Where no group is negated twice, the tree of a list of tokens
is the one read by recursion on the groups, and there is none exactly if no token is a term. -/
theorem Tree.ofTokens?_eq_read? (tokens : List Token) (h : Token.SignedOnce tokens) :
    Tree.ofTokens? tokens = Tree.read? tokens ∧
      (Tree.ofTokens? tokens = none ↔ ∀ t ∈ tokens, t.kind.isTerm = false) := by
  have honce := (Token.signedOnce_iff tokens).mp h
  refine ⟨?_, ofTokens?_eq_none tokens⟩
  exact Builder.tree?_foldl_query rfl false none tokens honce {} fun _ => rfl

/-- The end of a group that is not open, and a group that is not closed: `) - a OR -(b c`. -/
theorem Tree.read?_unbalanced :
    Tree.read? [⟨.closeGroup, 0⟩, ⟨.negation, 2⟩, ⟨.term (.text none .word "a"), 4⟩,
        ⟨.joiner .or, 6⟩, ⟨.openGroup true, 9⟩, ⟨.term (.text none .word "b"), 11⟩,
        ⟨.term (.text none .word "c"), 13⟩] =
      some (.node .or (.leaf ⟨.text none .word "a", 4, true⟩)
        (.node .and (.leaf ⟨.text none .word "b", 11, false⟩)
          (.leaf ⟨.text none .word "c", 13, false⟩) true) false) :=
  (Tree.ofTokens?_eq_read? _ (by decide)).1.symm

end RecordQuery
