import RecordQuery.Proofs.Query.Waiting

/-!
# Operands that are taken out

Cleanup takes out joiners and empty groups, and an allow-list takes out terms, each with the negation in
front of it. Where no more than one token waits in front of any such operand, the terms that stay are
negated as before.
-/

namespace RecordQuery

namespace Token

variable {allows : Term → Bool}

/-! ## Conditions one by one -/

theorem decide_negatedAfter (before : List Token) :
    decide (NegatedAfter before) = (scope before).negates :=
  Bool.eq_iff_iff.mpr (decide_eq_true_iff.trans (negates_scope before).symm)

theorem conditionsFrom_append (before first second : List Token) :
    conditionsFrom before (first ++ second) =
      conditionsFrom before first ++ conditionsFrom (before ++ first) second := by
  induction first generalizing before with
  | nil => simp [conditionsFrom]
  | cons t first ih => simp [conditionsFrom, ih]

theorem conditionsFrom_append_singleton (tokens : List Token) (t : Token) :
    conditionsFrom [] (tokens ++ [t]) =
      conditionsFrom [] tokens ++
        (t.term?.map (⟨·, t.position, (scope tokens).negates⟩)).toList := by
  rw [conditionsFrom_append, List.nil_append, conditionsFrom, conditionsFrom, decide_negatedAfter,
    List.append_nil]

theorem conditionsFrom_dropNegation (kept : List Token) :
    conditionsFrom [] (Cleanup.dropNegation kept).reverse = conditionsFrom [] kept.reverse := by
  refine apply_dropNegation ?_ kept
  intro tokens position
  rw [conditionsFrom_append_singleton]
  exact List.append_nil _

/-! ## Tokens in place of others -/

/-- What comes next is read behind `kept` as behind `all`, and `kept` has the conditions of `all` on the
terms that are allowed, negated alike. -/
structure Follows (allows : Term → Bool) (all kept : List Token) : Prop where
  scope : Token.scope kept = Token.scope all
  waiting : (Token.waiting kept).length ≤ (Token.waiting all).length
  /-- What is negated no more than once stays so. -/
  once : NegatedOnce allows all → NegatedOnce (fun _ => true) kept
  bare : NegatedOnce allows all → BareOnce allows all → BareOnce (fun _ => true) kept
  conditions : conditionsFrom [] kept = (conditionsFrom [] all).filter (allows ·.term)

namespace Follows

variable {all kept rest : List Token}

theorem nil (allows : Term → Bool) : Follows allows [] [] :=
  ⟨rfl, Nat.le_refl _, NegatedOnce.mono, fun _ => BareOnce.mono, rfl⟩

theorem refl (tokens : List Token) : Follows (fun _ => true) tokens tokens :=
  ⟨rfl, Nat.le_refl _, id, fun _ => id, by simp⟩

theorem trans {tokens : List Token} (h : Follows allows all kept)
    (h' : Follows (fun _ => true) kept tokens) : Follows allows all tokens where
  scope := h'.scope.trans h.scope
  waiting := Nat.le_trans h'.waiting h.waiting
  once := fun honce => h'.once (h.once honce)
  bare := fun honce hbare => h'.bare (h.once honce) (h.bare honce hbare)
  conditions := by rw [h'.conditions, h.conditions, List.filter_true]

/-- One more token behind both, allowed if it is a term. -/
theorem append_singleton (h : Follows allows all kept) {t : Token}
    (ht : ∀ x, t.term? = some x → allows x = true) : Follows allows (all ++ [t]) (kept ++ [t]) where
  scope := by rw [scope_append_singleton, scope_append_singleton, h.scope]
  waiting := by
    rw [length_waiting_append_singleton, length_waiting_append_singleton]
    exact waitingAfter_mono h.waiting t
  once := by
    intro honce
    obtain ⟨hall, -, hclose⟩ := (negatedOnce_append_singleton all t).mp honce
    refine (negatedOnce_append_singleton kept t).mpr ⟨h.once hall, ?_, ?_⟩
    · cases t.term? <;> simp
    · intro hend
      exact h.bare hall (hclose hend)
  bare := by
    intro honce hbare
    apply (bareOnce_append_singleton kept t).mpr
    rcases (bareOnce_append_singleton all t).mp hbare with hsettles | ⟨hbefore, hopen⟩
    · left
      cases hterm : t.term? <;> simp_all
    · exact .inr ⟨h.bare honce.of_append hbefore, fun ht => Nat.le_trans h.waiting (hopen ht)⟩
  conditions := by
    rw [conditionsFrom_append_singleton, conditionsFrom_append_singleton, List.filter_append,
      h.conditions, h.scope]
    cases hterm : t.term? with
    | none => rfl
    | some x => simp [ht x hterm]

theorem append (h : Follows allows all kept)
    (hrest : ∀ t ∈ rest, ∀ x, t.term? = some x → allows x = true) :
    Follows allows (all ++ rest) (kept ++ rest) := by
  induction rest using List.reverseRecOn with
  | nil => simpa using h
  | append_singleton rest t ih =>
      rw [← List.append_assoc, ← List.append_assoc]
      exact (ih fun u hu => hrest u (by simp [hu])).append_singleton (hrest t (by simp))

/-! ## Joiners and empty groups -/

/-- A joiner may be taken out. -/
theorem of_joiner {t : Token} (ht : t.kind.isJoiner = true) (kept : List Token) :
    Follows (fun _ => true) (kept ++ [t]) kept := by
  obtain ⟨j, p, rfl⟩ := exists_eq_joiner ht
  refine ⟨?_, ?_, NegatedOnce.of_append, fun _ hbare => hbare.of_other rfl, ?_⟩
  · rw [scope_append_singleton]
    rfl
  · rw [length_waiting_append_singleton]
    cases (Token.waiting kept).length with
    | zero => exact Nat.le_refl 0
    | succ n => exact Nat.le_succ _
  · rw [conditionsFrom_append_singleton, List.filter_true]
    exact (List.append_nil _).symm

/-- An empty group may be taken out with the negation in front of it, if no other waits there. -/
theorem of_empty {kept : List Token} {t u : Token} (hopen : t.kind.isOpenGroup = true)
    (hclose : u.kind.isCloseGroup = true) (hwaiting : (Token.waiting kept.reverse).length ≤ 1) :
    Follows (fun _ => true) (kept.reverse ++ [t, u]) (Cleanup.dropNegation kept).reverse := by
  have hsplit : kept.reverse ++ [t, u] = kept.reverse ++ [t] ++ [u] := by simp
  obtain ⟨n, p, rfl⟩ := exists_eq_openGroup hopen
  obtain ⟨q, rfl⟩ := exists_eq_closeGroup hclose
  refine ⟨?_, ?_, ?_, ?_, ?_⟩
  · rw [scope_dropNegation hwaiting, hsplit, scope_append_singleton, scope_append_singleton]
    rfl
  · rw [length_waiting_dropNegation hwaiting]
    exact Nat.zero_le _
  · intro honce
    exact negatedOnce_dropNegation.mpr honce.of_append
  · -- The end of the empty group has shown what was bare before it.
    intro honce _
    rw [hsplit] at honce
    exact bareOnce_dropNegation.mpr ((honce.bareOnce rfl).of_openGroup rfl).1
  · rw [conditionsFrom_dropNegation, hsplit, conditionsFrom_append_singleton,
      conditionsFrom_append_singleton, List.filter_true]
    simp [term?]

/-! ## Terms that are taken out -/

section
variable {x y : Term}

/-- A term that is not allowed is taken out with the negation in front of it. -/
theorem rejected (h : Follows allows all kept.reverse) (hx : allows x = false) (position : Nat)
    (hwaiting : (Token.waiting all).length ≤ 1) :
    Follows allows (all ++ [⟨.term x, position⟩]) (Cleanup.dropNegation kept).reverse where
  scope := by
    rw [scope_dropNegation (Nat.le_trans h.waiting hwaiting), h.scope, scope_append_singleton]
    rfl
  waiting := by
    rw [length_waiting_dropNegation (Nat.le_trans h.waiting hwaiting)]
    exact Nat.zero_le _
  once := fun honce => negatedOnce_dropNegation.mpr (h.once honce.of_append)
  bare := by
    intro honce hbare
    have hbefore := hbare.of_other (by simp [Kind.isCloseGroup, term?, hx])
    exact bareOnce_dropNegation.mpr (h.bare honce.of_append hbefore)
  conditions := by
    rw [conditionsFrom_dropNegation, h.conditions, conditionsFrom_append_singleton,
      List.filter_append]
    simp [term?, hx]

/-- So are two. -/
theorem rejected_pair (h : Follows allows all kept.reverse) (hx : allows x = false)
    (hy : allows y = false) (position : Nat) (hwaiting : (Token.waiting all).length ≤ 1) :
    Follows allows (all ++ [⟨.term x, position⟩, ⟨.term y, position⟩])
      (Cleanup.dropNegation kept).reverse := by
  have hfirst := h.rejected hx position hwaiting
  have hnone := length_waiting_dropNegation (Nat.le_trans h.waiting hwaiting)
  have hsecond := hfirst.rejected hy position (by rw [length_waiting_of_last all rfl]; exact Nat.zero_le 1)
  rw [dropNegation_eq_self hnone] at hsecond
  simpa using hsecond

/-- So is a group of two: without them it is empty. -/
theorem rejected_group (h : Follows allows all kept.reverse) (hx : allows x = false)
    (hy : allows y = false) (position : Nat) (hwaiting : (Token.waiting all).length ≤ 1) :
    Follows allows (all ++ [⟨.openGroup false, position⟩, ⟨.term x, position⟩, ⟨.term y, position⟩,
      ⟨.closeGroup, position⟩]) (Cleanup.dropNegation kept).reverse := by
  have hopen : Follows allows (all ++ [⟨.openGroup false, position⟩])
      (⟨.openGroup false, position⟩ :: kept).reverse := by
    rw [List.reverse_cons]
    exact h.append_singleton (by simp [term?])
  have hterms := hopen.rejected_pair hx hy position
    (by rw [length_waiting_of_last all rfl]; exact Nat.zero_le 1)
  have hclose := hterms.append_singleton (t := ⟨.closeGroup, position⟩) (by simp [term?])
  have hempty := of_empty (t := ⟨.openGroup false, position⟩) (u := ⟨.closeGroup, position⟩) rfl rfl
    (Nat.le_trans h.waiting hwaiting)
  have hkept : (Cleanup.dropNegation (⟨.openGroup false, position⟩ :: kept)).reverse ++
      [⟨.closeGroup, position⟩] =
        kept.reverse ++ [⟨.openGroup false, position⟩, ⟨.closeGroup, position⟩] := by
    simp [Cleanup.dropNegation_cons, Kind.isNegation]
  rw [hkept] at hclose
  simpa using hclose.trans hempty

end

end Follows

end Token

namespace Cleanup

open Token

/-- A pass takes out only what may be taken out. -/
theorem follows_passFrom (kept tokens : List Token)
    (h : NegatedOnce (fun _ => true) (kept.reverse ++ tokens)) :
    Follows (fun _ => true) (kept.reverse ++ tokens) (passFrom kept tokens) := by
  have hall : ∀ (rest : List Token), ∀ t ∈ rest, ∀ x, t.term? = some x → (fun _ => true) x = true :=
    fun _ _ _ _ _ => rfl
  induction kept, tokens using passFrom_induction with
  | nil kept =>
      rw [passFrom, List.append_nil]
      exact .refl _
  | empty kept t u rest hempty ih =>
      obtain ⟨hopen, hclose⟩ := Bool.and_eq_true_iff.mp hempty
      have hsplit : kept.reverse ++ t :: u :: rest = kept.reverse ++ [t, u] ++ rest := by simp
      have hbare : BareOnce (fun _ => true) (kept.reverse ++ [t]) := by
        rw [List.append_cons] at h
        exact h.bareOnce hclose
      have hwaiting := (hbare.of_openGroup hopen).2
      have hstep := (Follows.of_empty hopen hclose hwaiting).append (hall rest)
      rw [hsplit] at h ⊢
      rw [← hsplit, passFrom_startsEmpty kept hempty, hsplit]
      exact hstep.trans (ih (hstep.once h))
  | loose kept t rest hloose ih =>
      have hsplit : kept.reverse ++ t :: rest = kept.reverse ++ [t] ++ rest := by simp
      have hstep := (Follows.of_joiner (Bool.and_eq_true_iff.mp hloose).1 kept.reverse).append
        (hall rest)
      rw [hsplit] at h
      rw [passFrom_isLoose hloose, hsplit]
      exact hstep.trans (ih (hstep.once h))
  | keep kept t rest hempty hloose ih =>
      rw [passFrom_kept hempty hloose]
      simpa using ih (by simpa using h)

end Cleanup

/-- Cleanup keeps the conditions of tokens that are nowhere negated more than once. -/
theorem follows_cleanup {tokens : List Token} (h : Token.NegatedOnce (fun _ => true) tokens) :
    Token.Follows (fun _ => true) tokens (cleanup tokens) := by
  fun_induction cleanup tokens with
  | case1 tokens hlt ih =>
      have hpass : Token.Follows (fun _ => true) tokens (Cleanup.pass tokens) :=
        Cleanup.follows_passFrom [] tokens h
      exact hpass.trans (ih (hpass.once h))
  | case2 tokens hlt => exact .refl _

end RecordQuery
