import RecordQuery.Proofs.Query.Grouping

/-!
# Cleanup on the two sides of an operand

A pass looks one token ahead and one back, so it does not see past an operand: what stands before it
and what stands after it are cleaned up as if they stood alone.
-/

namespace RecordQuery

namespace Cleanup

/-! ## One part after the other -/

/-- Nothing at the end of the first part waits for the end of a group, or the second starts with none. -/
def Parts (first second : List Token) : Prop :=
  ∀ t ∈ first.getLast?, (t.kind.isOpenGroup || t.kind.isJoiner) = true →
    ∀ u ∈ second.head?, u.kind.isCloseGroup = false

theorem Parts.tail {t : Token} {rest second : List Token} (h : Parts (t :: rest) second) :
    Parts rest second := by
  intro u hu
  refine h u ?_
  cases rest with
  | nil => cases hu
  | cons v rest => rwa [List.getLast?_cons_cons]

theorem head?_any_append {t : Token} {rest second : List Token} (h : Parts (t :: rest) second)
    (ht : (t.kind.isOpenGroup || t.kind.isJoiner) = true) :
    (rest ++ second).head?.any (·.kind.isCloseGroup) = rest.head?.any (·.kind.isCloseGroup) := by
  cases rest with
  | cons u rest => rfl
  | nil =>
      cases second with
      | nil => rfl
      | cons u second => exact h t rfl ht u rfl

theorem startsEmpty_append_of_parts {t : Token} {rest second : List Token}
    (h : Parts (t :: rest) second) : startsEmpty t (rest ++ second) = startsEmpty t rest := by
  rw [startsEmpty, startsEmpty]
  cases ht : t.kind.isOpenGroup with
  | false => rfl
  | true => rw [head?_any_append h (by simp [ht])]

theorem isLoose_append_of_parts {t : Token} {rest second : List Token} (kept : List Token)
    (h : Parts (t :: rest) second) : isLoose kept t (rest ++ second) = isLoose kept t rest := by
  rw [isLoose, isLoose]
  cases ht : t.kind.isJoiner with
  | false => rfl
  | true => rw [head?_any_append h (by simp [ht])]

/-- A pass over two parts goes on in the second with what it has kept of the first. -/
theorem passFrom_append (kept : List Token) {first second : List Token} (h : Parts first second) :
    passFrom kept (first ++ second) = passFrom (passFrom kept first).reverse second := by
  induction kept, first using passFrom_induction with
  | nil kept => simp [passFrom]
  | empty kept t u rest hempty ih =>
      have hempty' := (startsEmpty_append_of_parts h).trans hempty
      rw [List.cons_append] at hempty'
      rw [List.cons_append, List.cons_append, passFrom_startsEmpty kept hempty',
        passFrom_startsEmpty kept hempty, ih h.tail.tail]
  | loose kept t rest hloose ih =>
      rw [List.cons_append, passFrom_isLoose ((isLoose_append_of_parts kept h).trans hloose),
        passFrom_isLoose hloose, ih h.tail]
  | keep kept t rest hempty hloose ih =>
      rw [List.cons_append, passFrom_kept ((startsEmpty_append_of_parts h).trans hempty)
        ((isLoose_append_of_parts kept h).trans hloose), passFrom_kept hempty hloose, ih h.tail]

/-! ## What has been kept -/

/-- Passes that have kept the same over two lists of tokens go on to keep the same, if both lists end in
no negation and are alike in front of a joiner. -/
theorem exists_passFrom_over {below : List Token} (below' : List Token)
    (hwaits : ∀ t ∈ below.head?, t.kind.isNegation = false)
    (hwaits' : ∀ t ∈ below'.head?, t.kind.isNegation = false)
    (hblocks : blocksJoiner below = blocksJoiner below') (kept tokens : List Token) :
    ∃ kept', passFrom (kept ++ below) tokens = below.reverse ++ kept' ∧
      passFrom (kept ++ below') tokens = below'.reverse ++ kept' := by
  have hsame : ∀ kept, blocksJoiner (kept ++ below) = blocksJoiner (kept ++ below') := by
    intro kept
    cases kept with
    | nil => exact hblocks
    | cons t kept => rfl
  have hloose : ∀ kept t rest, isLoose (kept ++ below) t rest = isLoose (kept ++ below') t rest :=
    fun kept t rest => isLoose_congr t (hsame kept) rfl
  -- Not by `passFrom_induction`: both passes have to make each step together.
  induction hn : tokens.length using Nat.strongRecOn generalizing kept tokens with
  | ind n ih =>
      subst hn
      cases tokens with
      | nil => exact ⟨kept.reverse, by simp [passFrom], by simp [passFrom]⟩
      | cons t rest =>
          cases hempty : startsEmpty t rest with
          | true =>
              cases rest with
              | nil => simp [startsEmpty] at hempty
              | cons u rest =>
                  -- An empty group takes the negation before it along, but none from below.
                  rw [passFrom_startsEmpty _ hempty, passFrom_startsEmpty _ hempty,
                    dropNegation_append hwaits, dropNegation_append hwaits']
                  exact ih _ (Nat.lt_succ_of_lt (Nat.lt_succ_self _)) _ _ rfl
          | false =>
              cases hjoiner : isLoose (kept ++ below) t rest with
              | true =>
                  rw [passFrom_isLoose hjoiner, passFrom_isLoose ((hloose kept t rest).symm.trans hjoiner)]
                  exact ih _ (Nat.lt_succ_self _) _ _ rfl
              | false =>
                  rw [passFrom_kept hempty hjoiner,
                    passFrom_kept hempty ((hloose kept t rest).symm.trans hjoiner)]
                  exact ih _ (Nat.lt_succ_self _) (t :: kept) _ rfl

/-- After an operand, a pass goes on as at the start. -/
theorem passFrom_base {base : List Token} (hwaits : ∀ t ∈ base.head?, t.kind.isNegation = false)
    (hblocks : blocksJoiner base = false) (tokens : List Token) :
    passFrom base tokens = base.reverse ++ pass tokens := by
  obtain ⟨kept, hbase, hnone⟩ :=
    exists_passFrom_over [] hwaits (by simp) hblocks [] tokens
  rw [List.nil_append] at hbase hnone
  rw [hbase, pass, hnone]
  simp

/-! ## Operands -/

/-- Tokens that are an operand or several: no joiner and no empty group among them, and nothing left
open at either end. -/
structure Solid (tokens : List Token) : Prop where
  ne_nil : tokens ≠ []
  joiner : ∀ t ∈ tokens, t.kind.isJoiner = false
  chain : tokens.IsChain (clash ·.kind ·.kind = false)
  first : ∀ t ∈ tokens.head?, t.kind.isCloseGroup = false
  last : ∀ t ∈ tokens.getLast?, t.kind.isOpenGroup = false ∧ t.kind.isNegation = false

section
variable {t : Token} {tokens : List Token}

theorem solid_term (x : Term) (position : Nat) : Solid [⟨.term x, position⟩] where
  ne_nil := by simp
  joiner := by simp [Token.Kind.isJoiner]
  chain := .singleton _
  first := by simp [Token.Kind.isCloseGroup]
  last := by simp [Token.Kind.isOpenGroup, Token.Kind.isNegation]

/-- A sign or term may come in front. -/
theorem Solid.cons (h : Solid tokens) (hjoiner : t.kind.isJoiner = false)
    (hclose : t.kind.isCloseGroup = false) : Solid (t :: tokens) where
  ne_nil := by simp
  joiner := List.forall_mem_cons.mpr ⟨hjoiner, h.joiner⟩
  chain := by
    refine List.isChain_cons.mpr ⟨?_, h.chain⟩
    intro u hu
    simp [clash, h.first u hu, h.joiner u (List.mem_of_head? hu)]
  first := by simpa using hclose
  last := by
    rw [List.getLast?_cons_of_ne_nil h.ne_nil]
    exact h.last

/-- The end of a group may come behind. -/
theorem Solid.snoc (h : Solid tokens) (ht : t.kind.isCloseGroup = true) : Solid (tokens ++ [t]) where
  ne_nil := by simp
  joiner := by
    intro u hu
    rcases List.mem_append.mp hu with hu | hu
    · exact h.joiner u hu
    · obtain rfl := List.mem_singleton.mp hu
      exact Token.Kind.isJoiner_of_isCloseGroup ht
  chain := by
    refine List.isChain_append.mpr ⟨h.chain, .singleton _, ?_⟩
    intro u hu v hv
    simp [clash, h.joiner u (List.mem_of_getLast? hu), (h.last u hu).1]
  first := by
    rw [List.head?_append_of_ne_nil _ h.ne_nil]
    exact h.first
  last := by
    rw [List.getLast?_append_of_ne_nil _ (by simp)]
    simpa using ⟨Token.Kind.isOpenGroup_of_isCloseGroup ht, Token.Kind.isNegation_of_isCloseGroup ht⟩

end

/-- A pass keeps them all. -/
theorem passFrom_solid {tokens : List Token} (hjoiner : ∀ t ∈ tokens, t.kind.isJoiner = false)
    (hchain : tokens.IsChain (clash ·.kind ·.kind = false))
    (hlast : ∀ t ∈ tokens.getLast?, t.kind.isOpenGroup = false) (kept rest : List Token) :
    passFrom kept (tokens ++ rest) = passFrom (tokens.reverse ++ kept) rest := by
  induction tokens generalizing kept with
  | nil => rfl
  | cons t tokens ih =>
      obtain ⟨ht, htokens⟩ := List.forall_mem_cons.mp hjoiner
      have hloose : isLoose kept t (tokens ++ rest) = false := by simp [isLoose, ht]
      have hempty : startsEmpty t (tokens ++ rest) = false := by
        cases tokens with
        | nil => simp [startsEmpty, hlast t rfl]
        | cons u tokens =>
            have hpair : clash t.kind u.kind = false := hchain.rel
            simp only [clash, ht, Bool.or_false, htokens u (List.mem_cons_self ..)] at hpair
            simpa [startsEmpty] using hpair
      have hlast' : ∀ u ∈ tokens.getLast?, u.kind.isOpenGroup = false := by
        intro u hu
        refine hlast u ?_
        cases tokens with
        | nil => cases hu
        | cons v tokens => rwa [List.getLast?_cons_cons]
      rw [List.cons_append, passFrom_kept hempty hloose, ih htokens hchain.tail hlast']
      simp

variable {first middle last : List Token}

theorem pass_between (h : Solid middle) :
    pass (first ++ (middle ++ last)) = pass first ++ (middle ++ pass last) := by
  have hparts : Parts first (middle ++ last) := by
    intro t ht hwaits u hu
    rw [List.head?_append_of_ne_nil _ h.ne_nil] at hu
    exact h.first u hu
  obtain ⟨t, ht⟩ : ∃ t, middle.getLast? = some t := ⟨_, List.getLast?_eq_some_getLast h.ne_nil⟩
  obtain ⟨hopen, hnegation⟩ := h.last t ht
  have hjoiner := h.joiner t (List.mem_of_getLast? ht)
  have hhead : (middle.reverse ++ (pass first).reverse).head? = some t := by
    rw [List.head?_append_of_ne_nil _ (by simp [h.ne_nil]), List.head?_reverse, ht]
  have hblocks : blocksJoiner (middle.reverse ++ (pass first).reverse) = false := by
    cases hkept : middle.reverse ++ (pass first).reverse with
    | nil => rfl
    | cons u kept =>
        obtain rfl : u = t := by simpa [hkept] using hhead
        simp [blocksJoiner, hjoiner, hopen]
  have hwaits : ∀ u ∈ (middle.reverse ++ (pass first).reverse).head?, u.kind.isNegation = false := by
    rw [hhead]
    simpa using hnegation
  rw [pass, passFrom_append [] hparts, passFrom_solid h.joiner h.chain (fun u hu => (h.last u hu).1),
    ← pass, passFrom_base hwaits hblocks]
  simp

/-- **Cleanup on the two sides of an operand.** It goes on in each as if that stood alone. -/
theorem cleanup_between (h : Solid middle) :
    cleanup (first ++ (middle ++ last)) = cleanup first ++ (middle ++ cleanup last) := by
  have hiterate : ∀ n first last, pass^[n] (first ++ (middle ++ last)) =
      pass^[n] first ++ (middle ++ pass^[n] last) := by
    intro n
    induction n with
    | zero => exact fun first last => rfl
    | succ n ih =>
        intro first last
        rw [Function.iterate_succ_apply, Function.iterate_succ_apply, Function.iterate_succ_apply,
          pass_between h, ih]
  -- As many passes as there are tokens are enough for the whole and for each part.
  have hfirst : first.length ≤ (first ++ (middle ++ last)).length := by simp
  have hlast : last.length ≤ (first ++ (middle ++ last)).length := by simp; omega
  rw [cleanup_eq_iterate (le_refl (first ++ (middle ++ last)).length), hiterate,
    cleanup_eq_iterate hfirst, cleanup_eq_iterate hlast]

end Cleanup

end RecordQuery
