import RecordQuery.Proofs.Query.Held

/-!
# Groups that vanish

An empty group is taken out with the negation in front of it. The builder lets go of all negations at the
end of a group, so the tree stays the same if no other negation is held there. In tokens without joiners,
where no group that holds no term has more in front of it than one negation, cleanup does not change the
tree.
-/

namespace RecordQuery

namespace Token

/-! ## Groups without terms -/

/-- Whether the group that these tokens start in ends before a term comes, when `depth` groups are open
inside it. -/
def endsBare (depth : Nat) : List Token → Bool
  | [] => false
  | t :: rest =>
    match t.kind with
    | .term _ => false
    | .openGroup _ => endsBare (depth + 1) rest
    | .closeGroup => depth == 0 || endsBare (depth - 1) rest
    | .joiner _ | .negation => endsBare depth rest

theorem survives_endsBare : Cleanup.Survives endsBare where
  cons := by
    intro rest rest' h depth t
    obtain ⟨kind, position⟩ := t
    cases kind with
    | term x => rfl
    | closeGroup => exact congrArg (depth == 0 || ·) (h (depth - 1))
    | openGroup _ | joiner _ | negation => exact h _
  joiner := by
    intro t ht depth rest
    obtain ⟨j, p, rfl⟩ := exists_eq_joiner ht
    rfl
  negation := by
    intro t ht depth rest
    obtain ⟨p, rfl⟩ := exists_eq_negation ht
    rfl
  empty := by
    intro t u rest h depth
    obtain ⟨n, p, q, rfl, rfl⟩ := Cleanup.exists_eq_of_startsEmpty h
    rfl

/-! ## One negation in front -/

/-- The tokens without the negation at their end. -/
def withoutSign (before : List Token) : List Token := (Cleanup.dropNegation before.reverse).reverse

theorem withoutSign_append_singleton (before : List Token) (t : Token) :
    withoutSign (before ++ [t]) = if t.kind.isNegation then before else before ++ [t] := by
  rw [withoutSign, List.reverse_append, List.reverse_singleton, List.singleton_append,
    Cleanup.dropNegation_cons]
  split <;> simp

/-- In front of a group that ends before a term comes, no negation is held but one right before the
group. -/
def HeldOnce (tokens : List Token) : Prop :=
  ∀ before t after, tokens = before ++ t :: after → t.kind.isOpenGroup = true →
    endsBare 0 after = true → negationHeld (withoutSign before) = false

theorem heldOnce_iff (tokens : List Token) :
    HeldOnce tokens ↔ ∀ i, ∀ h : i < tokens.length, tokens[i].kind.isOpenGroup = true →
      endsBare 0 (tokens.drop (i + 1)) = true → negationHeld (withoutSign (tokens.take i)) = false := by
  constructor
  · intro h i hi
    refine h _ _ _ ?_
    rw [← List.drop_eq_getElem_cons hi, List.take_append_drop]
  · rintro h before t after rfl hopen hbare
    have hat := h before.length (by simp)
    simp at hat
    exact hat hopen hbare

instance (tokens : List Token) : Decidable (HeldOnce tokens) :=
  decidable_of_iff _ (heldOnce_iff tokens).symm

theorem negationHeld_append_congr {before before' : List Token}
    (h : negationHeld before = negationHeld before') (after : List Token) :
    negationHeld (before ++ after) = negationHeld (before' ++ after) := by
  induction after using List.reverseRecOn with
  | nil => simpa using h
  | append_singleton after t ih =>
      rw [← List.append_assoc, ← List.append_assoc, negationHeld_append_singleton,
        negationHeld_append_singleton, ih]

theorem negationHeld_withoutSign {before : List Token} (h : negationHeld before = false) :
    negationHeld (withoutSign before) = false := by
  induction before using List.reverseRecOn with
  | nil => rfl
  | append_singleton before t ih =>
      rw [withoutSign_append_singleton]
      split
      · next hsign =>
          rw [negationHeld_append_singleton, holdsAfter, hsign] at h
          cases h
      · exact h

/-- The sign at the end is one of the tokens that come last. -/
theorem negationHeld_withoutSign_append {before before' : List Token}
    (h : negationHeld before = false) (h' : negationHeld before' = false) (after : List Token)
    (hafter : negationHeld (withoutSign (before ++ after)) = false) :
    negationHeld (withoutSign (before' ++ after)) = false := by
  induction after using List.reverseRecOn with
  | nil =>
      rw [List.append_nil]
      exact negationHeld_withoutSign h'
  | append_singleton after t ih =>
      have hsame := h'.trans h.symm
      rw [← List.append_assoc, withoutSign_append_singleton] at hafter ⊢
      cases hsign : t.kind.isNegation with
      | true =>
          rw [hsign, if_pos rfl] at hafter
          rwa [if_pos rfl, negationHeld_append_congr hsame]
      | false =>
          rw [hsign, if_neg Bool.false_ne_true, List.append_assoc] at hafter
          rwa [if_neg Bool.false_ne_true, List.append_assoc, negationHeld_append_congr hsame]

/-- Behind an empty group no negation is held. -/
theorem negationHeld_of_startsEmpty {t u : Token} {rest : List Token}
    (h : Cleanup.startsEmpty t (u :: rest) = true) (before : List Token) :
    negationHeld (before ++ [t, u]) = false := by
  obtain ⟨n, p, q, rfl, rfl⟩ := Cleanup.exists_eq_of_startsEmpty h
  rw [List.append_cons, negationHeld_append_singleton]
  rfl

theorem exists_sign (before : List Token) :
    ∃ sign, (∀ depth rest, endsBare depth (sign ++ rest) = endsBare depth rest) ∧
      before = withoutSign before ++ sign := by
  induction before using List.reverseRecOn with
  | nil => exact ⟨[], fun _ _ => rfl, rfl⟩
  | append_singleton before t ih =>
      rw [withoutSign_append_singleton]
      split
      · next hsign => exact ⟨[t], fun depth rest => survives_endsBare.negation hsign depth rest, rfl⟩
      · exact ⟨[], fun _ _ => rfl, by rw [List.append_nil]⟩

/-- An empty group may be taken out with the negation in front of it. -/
theorem HeldOnce.of_empty {before rest : List Token} {t u : Token}
    (h : HeldOnce (before ++ t :: u :: rest)) (hempty : Cleanup.startsEmpty t (u :: rest) = true) :
    negationHeld (withoutSign before) = false ∧ HeldOnce (withoutSign before ++ rest) := by
  have hbefore : negationHeld (withoutSign before) = false := by
    obtain ⟨n, p, q, rfl, rfl⟩ := Cleanup.exists_eq_of_startsEmpty hempty
    exact h before _ _ rfl rfl rfl
  refine ⟨hbefore, ?_⟩
  intro outside v after heq hv hbare
  have hbehind : ∀ middle, rest = middle ++ v :: after →
      negationHeld (withoutSign (withoutSign before ++ middle)) = false := by
    intro middle hrest
    have hheld := h (before ++ [t, u] ++ middle) v after (by simp [hrest]) hv hbare
    exact negationHeld_withoutSign_append (negationHeld_of_startsEmpty hempty before) hbefore middle
      hheld
  rcases List.append_eq_append_iff.mp heq with ⟨middle, rfl, hrest⟩ | ⟨middle, hkept, hrest⟩
  · exact hbehind middle hrest
  · cases middle with
    | nil =>
        have houtside := hbehind [] hrest.symm
        rwa [List.append_nil, hkept, List.append_nil] at houtside
    | cons w inside =>
        -- The group starts in front of the empty one, which says nothing about its end.
        obtain ⟨rfl, rfl⟩ := List.cons_eq_cons.mp hrest
        obtain ⟨sign, hsign, hsplit⟩ := exists_sign before
        rw [hkept] at hsplit
        refine h outside v (inside ++ (sign ++ t :: u :: rest)) (by simp [hsplit]) hv ?_
        rw [← hbare]
        apply survives_endsBare.append
        intro depth
        rw [hsign, survives_endsBare.empty hempty]

end Token

/-! ## The tree -/

namespace Builder

open Token

/-- The builder as it is when it holds no negation. -/
def release (b : Builder) : Builder := { b with negate := false }

theorem release_of_negate {b : Builder} (h : b.negate = false) : b.release = b := by
  rw [release, ← h]

theorem release_hold (b : Builder) : b.hold.release = b.release := rfl

/-- An empty group leaves nothing but that no negation is held any more. -/
theorem foldl_startsEmpty {t u : Token} {rest : List Token}
    (h : Cleanup.startsEmpty t (u :: rest) = true) (b : Builder) :
    [t, u].foldl step b = b.release := by
  obtain ⟨n, p, q, rfl, rfl⟩ := Cleanup.exists_eq_of_startsEmpty h
  rfl

theorem foldl_of_empty {before rest : List Token} {t u : Token}
    (hempty : Cleanup.startsEmpty t (u :: rest) = true)
    (hheld : negationHeld (withoutSign before) = false) :
    (before ++ [t, u]).foldl step {} = (withoutSign before).foldl step {} := by
  have hrelease : ∀ tokens : List Token, negationHeld tokens = false →
      (tokens.foldl step {}).release = tokens.foldl step {} := by
    intro tokens htokens
    exact release_of_negate ((negate_foldl tokens).trans htokens)
  rw [List.foldl_append, foldl_startsEmpty hempty]
  induction before using List.reverseRecOn with
  | nil => rfl
  | append_singleton before v ih =>
      rw [withoutSign_append_singleton] at hheld ⊢
      cases hsign : v.kind.isNegation with
      | false =>
          rw [hsign, if_neg Bool.false_ne_true] at hheld
          rw [if_neg Bool.false_ne_true]
          exact hrelease _ hheld
      | true =>
          rw [hsign, if_pos rfl] at hheld
          obtain ⟨p, rfl⟩ := exists_eq_negation hsign
          rw [if_pos rfl, List.foldl_append, List.foldl_cons, List.foldl_nil, step_negation,
            release_hold, hrelease before hheld]

/-- An empty group that is taken out leaves the tree as it is. -/
theorem ofTokens?_of_empty {before rest : List Token} {t u : Token}
    (hempty : Cleanup.startsEmpty t (u :: rest) = true)
    (hheld : negationHeld (withoutSign before) = false) :
    Tree.ofTokens? (withoutSign before ++ rest) = Tree.ofTokens? (before ++ t :: u :: rest) := by
  have hsplit : before ++ t :: u :: rest = before ++ [t, u] ++ rest := by simp
  rw [hsplit, ofTokens?_append, ofTokens?_append, foldl_of_empty hempty hheld]

end Builder

namespace Cleanup

open Token

theorem ofTokens?_passFrom (kept tokens : List Token)
    (hjoiner : ∀ t ∈ kept.reverse ++ tokens, t.kind.isJoiner = false)
    (h : HeldOnce (kept.reverse ++ tokens)) :
    HeldOnce (passFrom kept tokens) ∧
      Tree.ofTokens? (passFrom kept tokens) = Tree.ofTokens? (kept.reverse ++ tokens) := by
  induction kept, tokens using passFrom_induction with
  | nil kept =>
      rw [List.append_nil] at h
      rw [passFrom, List.append_nil]
      exact ⟨h, rfl⟩
  | empty kept t u rest hempty ih =>
      obtain ⟨hheld, hrest⟩ := h.of_empty hempty
      have htree := Builder.ofTokens?_of_empty hempty hheld
      have hkept : withoutSign kept.reverse = (dropNegation kept).reverse := by
        rw [withoutSign, List.reverse_reverse]
      rw [hkept] at hrest htree
      rw [passFrom_startsEmpty kept hempty, ← htree]
      refine ih ?_ hrest
      intro v hv
      apply hjoiner
      rcases List.mem_append.mp hv with hv | hv
      · exact List.mem_append_left _ ((dropNegation_sublist kept).reverse.subset hv)
      · exact List.mem_append_right _ (List.mem_cons_of_mem _ (List.mem_cons_of_mem _ hv))
  | loose kept t rest hloose ih =>
      have ht := hjoiner t (by simp)
      rw [isLoose, ht] at hloose
      cases hloose
  | keep kept t rest hempty hloose ih =>
      have hsplit : kept.reverse ++ t :: rest = (t :: kept).reverse ++ rest := by simp
      rw [passFrom_kept hempty hloose, hsplit]
      rw [hsplit] at h hjoiner
      exact ih hjoiner h

end Cleanup

/-- **Groups that vanish.** Cleanup of tokens without joiners does not change the tree, if in front of a
group that ends before a term comes no negation is held but one. That one goes with the group, and no
later term is negated by it. -/
theorem Tree.ofTokens?_cleanup {tokens : List Token} (hjoiner : ∀ t ∈ tokens, t.kind.isJoiner = false)
    (h : Token.HeldOnce tokens) : Tree.ofTokens? (cleanup tokens) = Tree.ofTokens? tokens := by
  fun_induction cleanup tokens with
  | case1 tokens hlt ih =>
      obtain ⟨honce, htree⟩ := Cleanup.ofTokens?_passFrom [] tokens hjoiner h
      have hpass : ∀ t ∈ Cleanup.pass tokens, t.kind.isJoiner = false :=
        fun t ht => hjoiner t ((Cleanup.passFrom_sublist [] tokens).subset ht)
      exact (ih hpass honce).trans htree
  | case2 tokens hnot => rfl

/-- Nested groups behind negations, and a term that is negated twice: `-(-()) a - -b`. -/
theorem Tree.ofTokens?_cleanup_nested :
    let tokens : List Token := [⟨.negation, 0⟩, ⟨.openGroup false, 1⟩, ⟨.negation, 2⟩,
      ⟨.openGroup false, 3⟩, ⟨.closeGroup, 4⟩, ⟨.closeGroup, 5⟩, ⟨.term (.text none .word "a"), 7⟩,
      ⟨.negation, 9⟩, ⟨.negation, 11⟩, ⟨.term (.text none .word "b"), 12⟩]
    (∀ t ∈ tokens, t.kind.isJoiner = false) ∧ Token.HeldOnce tokens ∧
      Tree.ofTokens? (cleanup tokens) = Tree.ofTokens? tokens :=
  ⟨by decide, by decide, Tree.ofTokens?_cleanup (by decide) (by decide)⟩

/-- Of two negations one stays behind, `- - () a`, and so does one that the empty group would take from
around it, `- -(() a b)`. -/
theorem Tree.ofTokens?_cleanup_held :
    let twice : List Token := [⟨.negation, 0⟩, ⟨.negation, 2⟩, ⟨.openGroup false, 4⟩, ⟨.closeGroup, 5⟩,
      ⟨.term (.text none .word "a"), 7⟩]
    let inside : List Token := [⟨.negation, 0⟩, ⟨.openGroup true, 2⟩, ⟨.openGroup false, 4⟩,
      ⟨.closeGroup, 5⟩, ⟨.term (.text none .word "a"), 7⟩, ⟨.term (.text none .word "b"), 9⟩,
      ⟨.closeGroup, 10⟩]
    Tree.ofTokens? (cleanup twice) ≠ Tree.ofTokens? twice ∧
      Tree.ofTokens? (cleanup inside) ≠ Tree.ofTokens? inside := by
  intro twice inside
  have htwice : cleanup twice = [⟨.negation, 0⟩, ⟨.term (.text none .word "a"), 7⟩] := by
    simp [twice, cleanup, Cleanup.pass, Cleanup.passFrom, Cleanup.dropNegation,
      Token.Kind.isOpenGroup, Token.Kind.isCloseGroup, Token.Kind.isJoiner]
  have hinside : cleanup inside = [⟨.negation, 0⟩, ⟨.openGroup true, 2⟩,
      ⟨.term (.text none .word "a"), 7⟩, ⟨.term (.text none .word "b"), 9⟩, ⟨.closeGroup, 10⟩] := by
    simp [inside, cleanup, Cleanup.pass, Cleanup.passFrom, Cleanup.dropNegation,
      Token.Kind.isOpenGroup, Token.Kind.isCloseGroup, Token.Kind.isJoiner]
  rw [htwice, hinside]
  decide

end RecordQuery
