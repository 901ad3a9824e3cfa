import RecordQuery.Proofs.Query.Balance
import RecordQuery.Proofs.Query.Flattening

/-!
# What waits for an operand

Where an operand is taken out of a query, an empty group or a term under a key that is not allowed, the
negation right in front of it goes with it, and no other. If more than that one was waiting for the
operand, the rest waits on and negates what comes next.
-/

namespace RecordQuery

namespace Token

/-! ## Waiting -/

/-- The first negation that waits for its operand after these tokens, with the negations and joiners
behind it. -/
def waiting (before : List Token) : List Token :=
  (before.reverse.takeWhile fun t => t.kind.isNegation || t.kind.isJoiner).reverse.dropWhile
    (!·.kind.isNegation)

/-- How many tokens wait after one more, if `n` do before it. -/
def waitingAfter (n : Nat) (t : Token) : Nat :=
  if t.kind.isNegation || (t.kind.isJoiner && n != 0) then n + 1 else 0

theorem waiting_append_mark (before : List Token) {t : Token}
    (h : (t.kind.isNegation || t.kind.isJoiner) = true) :
    waiting (before ++ [t]) =
      if (waiting before).isEmpty then [t].dropWhile (!·.kind.isNegation)
      else waiting before ++ [t] := by
  rw [waiting, List.reverse_append, List.reverse_singleton, List.singleton_append,
    List.takeWhile_cons, if_pos h, List.reverse_cons, List.dropWhile_append]
  rfl

theorem length_waiting_append_singleton (before : List Token) (t : Token) :
    (waiting (before ++ [t])).length = waitingAfter (waiting before).length t := by
  obtain ⟨kind, position⟩ := t
  cases kind with
  | term _ | openGroup _ | closeGroup =>
      simp [waiting, waitingAfter, Kind.isNegation, Kind.isJoiner]
  | negation | joiner _ =>
      rw [waiting_append_mark before rfl]
      cases waiting before <;> simp [waitingAfter, Kind.isNegation, Kind.isJoiner]

/-- Nothing waits behind a term or the sign of a group. -/
theorem length_waiting_of_last (before : List Token) {t : Token}
    (h : (t.kind.isNegation || t.kind.isJoiner) = false) : (waiting (before ++ [t])).length = 0 := by
  obtain ⟨hneg, hjoiner⟩ := Bool.or_eq_false_iff.mp h
  rw [length_waiting_append_singleton, waitingAfter, hneg, hjoiner]
  rfl

theorem waitingAfter_mono {m n : Nat} (h : m ≤ n) (t : Token) : waitingAfter m t ≤ waitingAfter n t := by
  obtain ⟨kind, position⟩ := t
  cases kind with
  | term _ | openGroup _ | closeGroup => exact Nat.le_refl 0
  | negation => exact Nat.succ_le_succ h
  | joiner j =>
      simp only [waitingAfter, Kind.isNegation, Kind.isJoiner, Bool.false_or, Bool.true_and]
      split
      · rw [if_pos (by simp at *; omega)]
        exact Nat.succ_le_succ h
      · exact Nat.zero_le _

/-- A negation waits where anything does. -/
theorem negationWaits_eq (before : List Token) :
    negationWaits before = ((waiting before).length != 0) := by
  induction before using List.reverseRecOn with
  | nil => rfl
  | append_singleton before t ih =>
      rw [negationWaits_append_singleton, ih, length_waiting_append_singleton]
      obtain ⟨kind, position⟩ := t
      cases kind with
      | term _ | openGroup _ | closeGroup | negation => rfl
      | joiner j => cases (waiting before).length <;> rfl

/-! ## Operands negated once -/

/-- The first token that ends a group or keeps one from being empty. -/
def settling? (allows : Term → Bool) (after : List Token) : Option Token :=
  after.find? fun t => t.kind.isCloseGroup || t.term?.any allows

/-- No more than one token waits in front of any term that is not allowed, and in front of any start of
a group behind which a group ends before an allowed term comes. -/
def NegatedOnce (allows : Term → Bool) (tokens : List Token) : Prop :=
  ∀ i, ∀ h : i < tokens.length,
    (tokens[i].term?.any (!allows ·) || (tokens[i].kind.isOpenGroup &&
      (settling? allows (tokens.drop (i + 1))).any (·.kind.isCloseGroup))) = true →
        (waiting (tokens.take i)).length ≤ 1

/-- No more than one token waits in front of any start of a group behind which neither a group ends nor
an allowed term comes. -/
def BareOnce (allows : Term → Bool) (tokens : List Token) : Prop :=
  ∀ i, ∀ h : i < tokens.length,
    (tokens[i].kind.isOpenGroup && (settling? allows (tokens.drop (i + 1))).isNone) = true →
      (waiting (tokens.take i)).length ≤ 1

instance (allows : Term → Bool) (tokens : List Token) : Decidable (NegatedOnce allows tokens) :=
  inferInstanceAs (Decidable (∀ i, ∀ _ : i < tokens.length, _ → _))

variable {allows : Term → Bool}

theorem settling?_append_singleton (after : List Token) (t : Token) :
    settling? allows (after ++ [t]) =
      (settling? allows after).or
        (if t.kind.isCloseGroup || t.term?.any allows then some t else none) := by
  rw [settling?, List.find?_append, List.find?_singleton]
  rfl

/-- Facts about each token and those on both sides of it, when one more comes behind. -/
theorem forall_append_singleton {p : List Token → Token → List Token → Prop} (tokens : List Token)
    (t : Token) :
    (∀ i, ∀ h : i < (tokens ++ [t]).length,
        p ((tokens ++ [t]).take i) (tokens ++ [t])[i] ((tokens ++ [t]).drop (i + 1))) ↔
      (∀ i, ∀ h : i < tokens.length, p (tokens.take i) tokens[i] (tokens.drop (i + 1) ++ [t])) ∧
        p tokens t [] := by
  constructor
  · intro h
    refine ⟨?_, ?_⟩
    · intro i hi
      have hlt : i < (tokens ++ [t]).length := by simp; omega
      have hat := h i hlt
      rwa [List.getElem_append_left hi, List.take_append_of_le_length (Nat.le_of_lt hi),
        List.drop_append_of_le_length hi] at hat
    · have hlt : tokens.length < (tokens ++ [t]).length := by simp
      have hat := h tokens.length hlt
      simpa using hat
  · rintro ⟨htokens, hlast⟩ i hi
    rcases Nat.lt_or_ge i tokens.length with hlt | hge
    · rw [List.getElem_append_left hlt, List.take_append_of_le_length (Nat.le_of_lt hlt),
        List.drop_append_of_le_length hlt]
      exact htokens i hlt
    · obtain rfl : i = tokens.length := by simp at hi; omega
      simpa using hlast

theorem negatedOnce_append_singleton (tokens : List Token) (t : Token) :
    NegatedOnce allows (tokens ++ [t]) ↔
      NegatedOnce allows tokens ∧ (t.term?.any (!allows ·) = true → (waiting tokens).length ≤ 1) ∧
        (t.kind.isCloseGroup = true → BareOnce allows tokens) := by
  refine (forall_append_singleton (p := fun before u after =>
    (u.term?.any (!allows ·) || (u.kind.isOpenGroup &&
      (settling? allows after).any (·.kind.isCloseGroup))) = true →
        (waiting before).length ≤ 1) tokens t).trans ?_
  simp only [settling?_append_singleton]
  constructor
  · rintro ⟨htokens, hlast⟩
    refine ⟨?_, ?_, ?_⟩
    · intro i hi hstart
      apply htokens i hi
      rcases (Bool.or_eq_true _ _).mp hstart with hterm | hgroup
      · rw [hterm, Bool.true_or]
      · obtain ⟨u, hsettling, hend⟩ := (Option.any_eq_true ..).mp (Bool.and_eq_true_iff.mp hgroup).2
        rw [hsettling] at hgroup ⊢
        rw [Option.some_or, hgroup, Bool.or_true]
    · intro hrejected
      apply hlast
      rw [hrejected, Bool.true_or]
    · intro hclose i hi hbare
      obtain ⟨hopen, hnone⟩ := Bool.and_eq_true_iff.mp hbare
      apply htokens i hi
      rw [Option.isNone_iff_eq_none.mp hnone]
      simp [hopen, hclose]
  · rintro ⟨htokens, hrejected, hclose⟩
    refine ⟨?_, ?_⟩
    · intro i hi hstart
      cases hsettling : settling? allows (tokens.drop (i + 1)) with
      | some u => exact htokens i hi (by simpa [hsettling] using hstart)
      | none =>
          rw [hsettling, Option.none_or] at hstart
          rcases (Bool.or_eq_true _ _).mp hstart with hterm | hgroup
          · exact htokens i hi (by rw [hterm, Bool.true_or])
          · obtain ⟨hopen, hend⟩ := Bool.and_eq_true_iff.mp hgroup
            refine hclose ?_ i hi (by simp [hopen, hsettling])
            split at hend
            · exact hend
            · cases hend
    · intro hstart
      apply hrejected
      simpa [settling?] using hstart

theorem bareOnce_append_singleton (tokens : List Token) (t : Token) :
    BareOnce allows (tokens ++ [t]) ↔
      (t.kind.isCloseGroup || t.term?.any allows) = true ∨
        BareOnce allows tokens ∧ (t.kind.isOpenGroup = true → (waiting tokens).length ≤ 1) := by
  refine (forall_append_singleton (p := fun before u after =>
    (u.kind.isOpenGroup && (settling? allows after).isNone) = true →
      (waiting before).length ≤ 1) tokens t).trans ?_
  simp only [settling?_append_singleton]
  cases hsettles : t.kind.isCloseGroup || t.term?.any allows with
  | true =>
      refine iff_of_true ⟨?_, ?_⟩ (.inl rfl)
      · intro i hi hbare
        simp at hbare
      · intro hbare
        obtain ⟨kind, position⟩ := t
        cases kind <;> simp_all [Kind.isOpenGroup, Kind.isCloseGroup, term?]
  | false =>
      simp [BareOnce, settling?]

theorem NegatedOnce.of_append {tokens rest : List Token} (h : NegatedOnce allows (tokens ++ rest)) :
    NegatedOnce allows tokens := by
  induction rest using List.reverseRecOn with
  | nil => rwa [List.append_nil] at h
  | append_singleton rest t ih =>
      rw [← List.append_assoc] at h
      exact ih ((negatedOnce_append_singleton _ t).mp h).1

/-- In front of a term that is not allowed. -/
theorem NegatedOnce.length_waiting {before after : List Token} {x : Term} {position : Nat}
    (h : NegatedOnce allows (before ++ ⟨.term x, position⟩ :: after)) (hx : allows x = false) :
    (waiting before).length ≤ 1 := by
  rw [List.append_cons] at h
  exact ((negatedOnce_append_singleton before _).mp h.of_append).2.1 (by simp [term?, hx])

theorem NegatedOnce.bareOnce {before after : List Token} {u : Token}
    (h : NegatedOnce allows (before ++ u :: after)) (hu : u.kind.isCloseGroup = true) :
    BareOnce allows before := by
  rw [List.append_cons] at h
  exact ((negatedOnce_append_singleton before _).mp h.of_append).2.2 hu

theorem BareOnce.of_openGroup {before : List Token} {t : Token} (h : BareOnce allows (before ++ [t]))
    (ht : t.kind.isOpenGroup = true) : BareOnce allows before ∧ (waiting before).length ≤ 1 := by
  obtain ⟨n, p, rfl⟩ := exists_eq_openGroup ht
  rcases (bareOnce_append_singleton before _).mp h with hsettles | ⟨hbare, hopen⟩
  · cases hsettles
  · exact ⟨hbare, hopen rfl⟩

/-- Any other token, a term that is not allowed among them. -/
theorem BareOnce.of_other {before : List Token} {t : Token} (h : BareOnce allows (before ++ [t]))
    (ht : (t.kind.isCloseGroup || t.term?.any allows) = false) : BareOnce allows before := by
  rcases (bareOnce_append_singleton before t).mp h with hsettles | ⟨hbare, -⟩
  · rw [ht] at hsettles
    cases hsettles
  · exact hbare

/-! Where every term is allowed, only groups matter. -/

theorem BareOnce.mono {tokens : List Token} (h : BareOnce allows tokens) :
    BareOnce (fun _ => true) tokens := by
  induction tokens using List.reverseRecOn with
  | nil => exact fun i hi => absurd hi (Nat.not_lt_zero i)
  | append_singleton tokens t ih =>
      apply (bareOnce_append_singleton tokens t).mpr
      rcases (bareOnce_append_singleton tokens t).mp h with hsettles | ⟨hbare, hopen⟩
      · left
        cases hterm : t.term? <;> simp_all
      · exact .inr ⟨ih hbare, hopen⟩

theorem NegatedOnce.mono {tokens : List Token} (h : NegatedOnce allows tokens) :
    NegatedOnce (fun _ => true) tokens := by
  induction tokens using List.reverseRecOn with
  | nil => exact fun i hi => absurd hi (Nat.not_lt_zero i)
  | append_singleton tokens t ih =>
      obtain ⟨htokens, -, hclose⟩ := (negatedOnce_append_singleton tokens t).mp h
      refine (negatedOnce_append_singleton tokens t).mpr ⟨ih htokens, ?_, fun hend => (hclose hend).mono⟩
      cases t.term? <;> simp

/-! ## The negation that is taken out -/

section
variable {kept : List Token}

/-- What a negation at the end does not change, taking one out does not change either. -/
theorem apply_dropNegation {α : Sort*} {f : List Token → α}
    (hf : ∀ tokens position, f (tokens ++ [⟨.negation, position⟩]) = f tokens) (kept : List Token) :
    f (Cleanup.dropNegation kept).reverse = f kept.reverse := by
  cases kept with
  | nil => rfl
  | cons t kept =>
      rw [Cleanup.dropNegation_cons]
      split
      · next hneg =>
          obtain ⟨p, rfl⟩ := exists_eq_negation hneg
          rw [List.reverse_cons, hf]
      · rfl

theorem groups_scope_dropNegation (kept : List Token) :
    (scope (Cleanup.dropNegation kept).reverse).groups = (scope kept.reverse).groups := by
  refine apply_dropNegation (f := fun tokens => (scope tokens).groups) ?_ kept
  intro tokens position
  rw [scope_append_singleton]
  rfl

theorem negatedOnce_dropNegation :
    NegatedOnce allows (Cleanup.dropNegation kept).reverse ↔ NegatedOnce allows kept.reverse := by
  refine iff_of_eq (apply_dropNegation ?_ kept)
  intro tokens position
  simp [negatedOnce_append_singleton, Kind.isCloseGroup, term?]

theorem bareOnce_dropNegation :
    BareOnce allows (Cleanup.dropNegation kept).reverse ↔ BareOnce allows kept.reverse := by
  refine iff_of_eq (apply_dropNegation ?_ kept)
  intro tokens position
  simp [bareOnce_append_singleton, Kind.isOpenGroup, Kind.isCloseGroup, term?]

/-- After it, nothing waits any more if no more than one token did. -/
theorem length_waiting_dropNegation (h : (waiting kept.reverse).length ≤ 1) :
    (waiting (Cleanup.dropNegation kept).reverse).length = 0 := by
  cases kept with
  | nil => rfl
  | cons t kept =>
      rw [List.reverse_cons, length_waiting_append_singleton, waitingAfter] at h
      rw [Cleanup.dropNegation_cons]
      split
      · next hneg =>
          rw [hneg] at h
          exact Nat.le_zero.mp (Nat.le_of_succ_le_succ h)
      · next hneg =>
          have hsign : t.kind.isNegation = false := by simpa using hneg
          rw [hsign, Bool.false_or] at h
          rw [List.reverse_cons, length_waiting_append_singleton, waitingAfter, hsign, Bool.false_or]
          -- A joiner would wait behind a negation, and so not alone.
          split at h
          · next hwaits =>
              have hn : (waiting kept.reverse).length ≠ 0 := by
                simpa using (Bool.and_eq_true_iff.mp hwaits).2
              omega
          · next hwaits => rw [if_neg hwaits]

theorem dropNegation_eq_self (h : (waiting kept.reverse).length = 0) :
    Cleanup.dropNegation kept = kept := by
  cases kept with
  | nil => rfl
  | cons t kept =>
      rw [Cleanup.dropNegation_cons]
      split
      · next hneg =>
          rw [List.reverse_cons, length_waiting_append_singleton, waitingAfter, hneg] at h
          cases h
      · rfl

theorem scope_dropNegation (h : (waiting kept.reverse).length ≤ 1) :
    scope (Cleanup.dropNegation kept).reverse = { groups := (scope kept.reverse).groups } := by
  have hwaits : (scope (Cleanup.dropNegation kept).reverse).waits = false := by
    rw [waits_scope, negationWaits_eq, length_waiting_dropNegation h]
    rfl
  rw [← groups_scope_dropNegation, ← hwaits]

end

end Token

end RecordQuery
