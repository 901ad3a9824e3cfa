import RecordQuery.Proofs.Query.Flattening
import RecordQuery.Proofs.Query.Grouping
import RecordQuery.Proofs.Query.Placement

/-!
# The tree of a group

The builder reads the tokens of a query inside a group as it reads them alone, with the group and all
that is open before it around what is open in it. It takes no notice of joiners at the two ends, so a
group is an operand, the tree of the query, negated if the group is.
-/

namespace RecordQuery

namespace Builder

/-! ## Joiners at the ends -/

/-- Joiners before all operands are passed over. -/
theorem foldl_step_lead {lead : List Token} (h : Cleanup.Joiners lead) {b : Builder}
    (hb : b.current.tree = none) : lead.foldl step b = b := by
  induction lead with
  | nil => rfl
  | cons t lead ih =>
      obtain ⟨ht, hlead⟩ := List.forall_mem_cons.mp h
      have hstep : b.step t = b := by
        obtain ⟨j, p, rfl⟩ := Token.exists_eq_joiner ht
        simp [step, hb]
      rw [List.foldl_cons, hstep, ih hlead]

/-- Joiners after all operands wait in vain. -/
theorem foldl_step_trail {trail : List Token} (h : Cleanup.Joiners trail) (b : Builder) :
    ∃ waiting, trail.foldl step b = { b with current := { b.current with waiting := waiting } } := by
  induction trail generalizing b with
  | nil => exact ⟨b.current.waiting, rfl⟩
  | cons t trail ih =>
      obtain ⟨ht, htrail⟩ := List.forall_mem_cons.mp h
      have hstep : ∃ waiting, b.step t = { b with current := { b.current with waiting := waiting } } := by
        obtain ⟨⟨tree, waiting, negated⟩, outer, negate⟩ := b
        obtain ⟨j, p, rfl⟩ := Token.exists_eq_joiner ht
        cases tree with
        | none => exact ⟨waiting, rfl⟩
        | some t => exact ⟨some (.ofJoiner j), rfl⟩
      obtain ⟨first, hfirst⟩ := hstep
      obtain ⟨last, hlast⟩ := ih htrail (b.step t)
      refine ⟨last, ?_⟩
      rw [List.foldl_cons, hlast, hfirst]

/-! ## One more group -/

/-- The frames around the innermost one when the query is a group: what is open before it comes last, and
the outermost frame of the query is negated if the group is. -/
def groupFrames (n : Bool) (before : List Frame) : List Frame → List Frame
  | [] => before
  | [f] => { f with negated := n } :: before
  | f :: g :: rest => f :: groupFrames n before (g :: rest)

/-- The builder that has read the same after the start of a group. -/
def inGroup (n : Bool) (before : List Frame) (b : Builder) : Builder where
  current := if b.outer.isEmpty then { b.current with negated := n } else b.current
  outer := groupFrames n before b.outer
  negate := b.negate

/-- A token that ends no group but those of the query does the same inside the group. -/
theorem inGroup_step (n : Bool) (before : List Frame) {b : Builder} {t : Token} {depth : Nat}
    (h : Token.depthAfter? b.outer.length t = some depth) :
    (b.step t).inGroup n before = (b.inGroup n before).step t ∧ (b.step t).outer.length = depth := by
  obtain ⟨⟨tree, waiting, negated⟩, outer, negate⟩ := b
  obtain ⟨kind, position⟩ := t
  cases kind with
  | negation => exact ⟨rfl, Option.some.inj h⟩
  | joiner j =>
      refine ⟨?_, ?_⟩
      · cases tree <;> cases outer <;> rfl
      · cases tree <;> exact Option.some.inj h
  | term x =>
      refine ⟨?_, Option.some.inj h⟩
      cases tree <;> cases outer <;> rfl
  | openGroup n =>
      refine ⟨?_, Option.some.inj h⟩
      cases outer <;> rfl
  | closeGroup =>
      cases outer with
      | nil => simp [Token.depthAfter?] at h
      | cons f outer =>
          have hdepth : outer.length = depth := by simpa [Token.depthAfter?] using h
          refine ⟨?_, hdepth⟩
          -- If it is the outermost group of the query, what it goes into is the frame of the group.
          cases outer with
          | nil =>
              obtain ⟨tree', waiting', negated'⟩ := f
              cases tree <;> cases tree' <;> rfl
          | cons g outer => rfl

theorem inGroup_foldl (n : Bool) (before : List Frame) {b : Builder} {tokens : List Token} {depth : Nat}
    (h : Token.depth? b.outer.length tokens = some depth) :
    (tokens.foldl step b).inGroup n before = tokens.foldl step (b.inGroup n before) ∧
      (tokens.foldl step b).outer.length = depth := by
  induction tokens generalizing b with
  | nil => exact ⟨rfl, Option.some.inj h⟩
  | cons t tokens ih =>
      rw [Token.depth?_cons] at h
      obtain ⟨after, hafter, hrest⟩ := Option.bind_eq_some_iff.mp h
      obtain ⟨hstep, hlength⟩ := inGroup_step n before hafter
      rw [← hlength] at hrest
      obtain ⟨hfold, hdepth⟩ := ih hrest
      rw [List.foldl_cons, List.foldl_cons, ← hstep]
      exact ⟨hfold, hdepth⟩

/-- **A group is an operand.** The tree of the query inside it is attached, negated if the group is; a
query without a tree leaves nothing. -/
theorem foldl_group {b : Builder} (hb : b.negate = false) {n : Bool} {p q : Nat}
    {tokens group : List Token}
    (h : Cleanup.GroupOf ⟨.openGroup n, p⟩ ⟨.closeGroup, q⟩ tokens group)
    (hbalanced : Token.Balanced tokens) :
    group.foldl step b = { b with
      current := (Tree.ofTokens? tokens).elim b.current fun t => b.current.attach (t.negateIf n) } := by
  obtain ⟨lead, inside, trail, trail', hlead, htrail, htrail', rfl, rfl⟩ := h
  have hinside := Cleanup.depth?_inside hlead htrail hbalanced
  obtain ⟨hgroup, hclosed⟩ := inGroup_foldl n (b.current :: b.outer) (b := {}) hinside
  have houter := List.length_eq_zero_iff.mp hclosed
  generalize hread : inside.foldl step {} = c at hgroup houter
  obtain ⟨waiting, hquery⟩ := foldl_step_trail htrail c
  obtain ⟨waiting', hfinish⟩ := foldl_step_trail htrail' (c.inGroup n (b.current :: b.outer))
  have htree : Tree.ofTokens? (lead ++ (inside ++ trail)) = c.current.tree := by
    rw [Tree.ofTokens?, List.foldl_append, foldl_step_lead hlead rfl, List.foldl_append, hread, hquery,
      houter]
    rfl
  have hstart : b.step ⟨.openGroup n, p⟩ = inGroup n (b.current :: b.outer) {} := by
    cases n <;> simp [step, inGroup, groupFrames, hb]
  rw [htree, List.foldl_cons, hstart, List.foldl_append, ← hgroup, List.foldl_append, hfinish]
  obtain ⟨⟨tree, waiting₀, negated⟩, outer, negate⟩ := c
  obtain rfl : outer = [] := houter
  obtain ⟨current, outer, negate'⟩ := b
  obtain rfl : negate' = false := hb
  cases tree <;> rfl

end Builder

/-- The tree of a negated group is that of the query, negated. -/
theorem Tree.ofTokens?_group {tokens group : List Token} {t : Tree} {p q : Nat}
    (h : Cleanup.GroupOf ⟨.openGroup true, p⟩ ⟨.closeGroup, q⟩ tokens group)
    (hbalanced : Token.Balanced tokens) (ht : Tree.ofTokens? tokens = some t) :
    Tree.ofTokens? group = some t.negate := by
  rw [Tree.ofTokens?, Builder.foldl_group rfl h hbalanced, ht]
  rfl

/-! ## Before cleanup -/

theorem Token.unplaced_map_kind (tokens : List Token) :
    Token.unplaced (tokens.map Token.kind) = tokens.map fun t => ⟨t.kind, 0⟩ := by
  simp [Token.unplaced]

theorem unplaced_cleanup (tokens : List Token) :
    Token.unplaced ((cleanup tokens).map Token.kind) =
      cleanup (Token.unplaced (tokens.map Token.kind)) := by
  rw [Token.unplaced_map_kind, Token.unplaced_map_kind]
  exact (cleanup_map (f := fun t => ⟨t.kind, 0⟩) (fun _ => rfl) tokens).symm

/-- Places and cleanup do not matter for the balance. -/
theorem balanced_unplaced {tokens : List Token} (h : Token.Balanced (cleanup tokens)) :
    Token.Balanced (Token.unplaced (tokens.map Token.kind)) := by
  rw [Token.Balanced, Token.unplaced_map_kind,
    Token.depth?_map (f := fun t => ⟨t.kind, 0⟩) fun _ => rfl, ← depth?_cleanup]
  exact h

/-- Before cleanup, the tokens of a query stand in its group as they are. -/
theorem Cleanup.groupOf_self (start finish : Token) (tokens : List Token) :
    GroupOf start finish tokens (start :: (tokens ++ [finish])) :=
  ⟨[], tokens, [], [], by simp [Joiners], by simp [Joiners], by simp [Joiners],
    (List.append_nil tokens).symm, rfl⟩

/-- A tree holds a term. -/
theorem Tree.exists_isTerm {tokens : List Token} {t : Tree} (h : Tree.ofTokens? tokens = some t) :
    ∃ x ∈ tokens, x.kind.isTerm = true := by
  by_contra hnone
  have hempty : Tree.ofTokens? tokens = none := by
    refine (Tree.ofTokens?_eq_none tokens).mpr ?_
    intro x hx
    cases hterm : x.kind.isTerm with
    | false => rfl
    | true => exact absurd ⟨x, hx, hterm⟩ hnone
  rw [h] at hempty
  cases hempty

/-- Between the signs of a negated group, tokens make the negated tree, up to its places, whatever is
cleaned up. -/
theorem Tree.ofTokens?_cleanup_group {tokens group : List Token} {t : Tree}
    (hkinds : group.map Token.kind = .openGroup true :: (tokens.map Token.kind ++ [.closeGroup]))
    (hbalanced : Token.Balanced (cleanup tokens)) (ht : Tree.ofTokens? (cleanup tokens) = some t) :
    ∃ u, Tree.ofTokens? (cleanup group) = some u ∧ u.unplaced = t.negate.unplaced := by
  -- Cleanup and the builder look at kinds only, so the argument is about tokens without places.
  have hinside : Tree.ofTokens? (cleanup (Token.unplaced (tokens.map Token.kind))) =
      some t.unplaced := by
    rw [← unplaced_cleanup, ← Tree.unplaced_ofTokens?, ht]
    rfl
  have hbalanced' := balanced_unplaced hbalanced
  have hgroup : Cleanup.GroupOf ⟨.openGroup true, 0⟩ ⟨.closeGroup, 0⟩
      (Token.unplaced (tokens.map Token.kind)) (Token.unplaced (group.map Token.kind)) := by
    rw [hkinds, Token.unplaced_cons, Token.unplaced_append]
    exact Cleanup.groupOf_self _ _ _
  obtain ⟨x, hx, hterm⟩ := Tree.exists_isTerm hinside
  have hclean := hgroup.cleanup rfl rfl hbalanced' ⟨x, (cleanup_sublist _).subset hx, hterm⟩
  have htree := Tree.ofTokens?_group hclean ((depth?_cleanup 0 _).trans hbalanced') hinside
  rw [← unplaced_cleanup, ← Tree.unplaced_ofTokens?] at htree
  obtain ⟨u, hu, hunplaced⟩ := Option.map_eq_some_iff.mp htree
  exact ⟨u, hu, hunplaced.trans (Tree.unplaced_negateIf true t).symm⟩

end RecordQuery
