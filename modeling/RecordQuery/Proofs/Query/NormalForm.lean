import RecordQuery.Proofs.Query.Barrier

/-!
# What cleanup leaves

Cleanup goes on while a pass takes something out, and so ends after no more passes than there are tokens.
It leaves no empty group and no joiner that is loose on one side. Every term stays in the groups it was in,
and of joiners in a row between two terms the first stays.
-/

namespace RecordQuery

namespace Cleanup

/-! ## The last pass -/

/-- Each pass takes something out, up to the last. -/
theorem exists_passes (tokens : List Token) :
    ∃ n ≤ tokens.length, cleanup tokens = pass^[n] tokens ∧
      ∀ m < n, (pass^[m + 1] tokens).length < (pass^[m] tokens).length := by
  fun_induction cleanup tokens with
  | case1 tokens hlt ih =>
      obtain ⟨n, hn, heq, hshrinks⟩ := ih
      refine ⟨n + 1, by omega, heq, ?_⟩
      intro m hm
      cases m with
      | zero => exact hlt
      | succ m => exact hshrinks m (Nat.lt_of_succ_lt_succ hm)
  | case2 tokens hnot =>
      exact ⟨0, Nat.zero_le _, rfl, fun m hm => absurd hm (Nat.not_lt_zero m)⟩

theorem pass_eq_self {tokens : List Token} (h : tokens.length ≤ (pass tokens).length) :
    pass tokens = tokens :=
  (passFrom_sublist [] tokens).eq_of_length_le h

/-- After it, one more takes nothing out. -/
theorem pass_cleanup (tokens : List Token) : pass (cleanup tokens) = cleanup tokens := by
  fun_induction cleanup tokens with
  | case1 tokens hlt ih => exact ih
  | case2 tokens hnot => exact pass_eq_self (Nat.le_of_not_lt hnot)

theorem cleanup_pass (tokens : List Token) : cleanup (pass tokens) = cleanup tokens := by
  rw [cleanup.eq_def tokens]
  split
  · rfl
  · next hnot =>
      have hfixed := pass_eq_self (Nat.le_of_not_lt hnot)
      rw [hfixed, cleanup, hfixed, if_neg (Nat.lt_irrefl _)]

/-! ## Normal form -/

/-- No group is empty, and no joiner stands after another one, after the start of a group or before its
end. -/
structure Tidy (tokens : List Token) : Prop where
  groups : ∀ t u, [t, u] <:+: tokens → t.kind.isOpenGroup = true → u.kind.isCloseGroup = false
  joiners : ∀ t u, [t, u] <:+: tokens → t.kind.isJoiner = true → u.kind.isJoiner = false
  starts : ∀ t u, [t, u] <:+: tokens → t.kind.isOpenGroup = true → u.kind.isJoiner = false
  ends : ∀ t u, [t, u] <:+: tokens → t.kind.isJoiner = true → u.kind.isCloseGroup = false

theorem tidy_of_isChain {tokens : List Token}
    (h : tokens.IsChain (clash ·.kind ·.kind = false)) : Tidy tokens := by
  have hpair : ∀ t u, [t, u] <:+: tokens → (t.kind.isOpenGroup || t.kind.isJoiner) = true →
      u.kind.isCloseGroup = false ∧ u.kind.isJoiner = false := by
    intro t u hinfix ht
    have hchain : [t, u].IsChain (clash ·.kind ·.kind = false) := List.IsChain.infix h hinfix
    have hclash : clash t.kind u.kind = false := hchain.rel
    rw [clash, ht, Bool.true_and] at hclash
    exact Bool.or_eq_false_iff.mp hclash
  constructor
  · intro t u hinfix ht
    exact (hpair t u hinfix (by rw [ht, Bool.true_or])).1
  · intro t u hinfix ht
    exact (hpair t u hinfix (by rw [ht, Bool.or_true])).2
  · intro t u hinfix ht
    exact (hpair t u hinfix (by rw [ht, Bool.true_or])).2
  · intro t u hinfix ht
    exact (hpair t u hinfix (by rw [ht, Bool.or_true])).1

/-- Two neighbours do not clash if a pass keeps the first in front of the second, and the second after
the first. -/
theorem clash_eq_false_of_kept {kept : List Token} {t u : Token} {rest : List Token}
    (hempty : startsEmpty t (u :: rest) = false) (hloose : isLoose kept t (u :: rest) = false)
    (hblocks : u.kind.isJoiner = true → blocksJoiner (t :: kept) = false) :
    clash t.kind u.kind = false := by
  simp only [startsEmpty, List.head?_cons, Option.any_some] at hempty
  simp only [isLoose, List.head?_cons, Option.any_some] at hloose
  cases hclose : u.kind.isCloseGroup with
  | true =>
      rw [hclose, Bool.and_true] at hempty
      rw [hclose, Bool.or_true, Bool.and_true] at hloose
      rw [clash, hempty, hloose]
      rfl
  | false =>
      cases hjoiner : u.kind.isJoiner with
      | true =>
          have ht : (t.kind.isOpenGroup || t.kind.isJoiner) = false :=
            (Bool.or_comm _ _).trans (hblocks hjoiner)
          rw [clash, ht, Bool.false_and]
      | false => rw [clash, hclose, hjoiner, Bool.or_false, Bool.and_false]

/-- Where a pass keeps all tokens, no two neighbours clash. -/
theorem isChain_of_passFrom {kept tokens : List Token}
    (h : kept.length + tokens.length ≤ (passFrom kept tokens).length) :
    tokens.IsChain (clash ·.kind ·.kind = false) ∧
      ∀ t ∈ tokens.head?, t.kind.isJoiner = true → blocksJoiner kept = false := by
  induction kept, tokens using passFrom_induction with
  | nil kept => exact ⟨.nil, by simp⟩
  | empty kept t u rest hempty ih =>
      rw [passFrom_startsEmpty kept hempty] at h
      have hrest := (passFrom_sublist (dropNegation kept) rest).length_le
      have hkept := (dropNegation_sublist kept).length_le
      simp only [List.length_append, List.length_reverse, List.length_cons] at h hrest
      omega
  | loose kept t rest hloose ih =>
      rw [passFrom_isLoose hloose] at h
      have hrest := (passFrom_sublist kept rest).length_le
      simp only [List.length_append, List.length_reverse, List.length_cons] at h hrest
      omega
  | keep kept t rest hempty hloose ih =>
      rw [passFrom_kept hempty hloose] at h
      obtain ⟨hchain, hblocks⟩ := ih (by simp only [List.length_cons] at h ⊢; omega)
      refine ⟨List.isChain_cons.mpr ⟨?_, hchain⟩, ?_⟩
      · intro u hu
        cases rest with
        | nil => cases hu
        | cons v rest =>
            obtain rfl : v = u := by simpa using hu
            exact clash_eq_false_of_kept hempty hloose (hblocks v rfl)
      · intro u hu ht
        obtain rfl : t = u := by simpa using hu
        rw [isLoose, ht, Bool.true_and] at hloose
        exact (Bool.or_eq_false_iff.mp hloose).1

theorem isChain_cleanup (tokens : List Token) :
    (cleanup tokens).IsChain (clash ·.kind ·.kind = false) := by
  have hlength : ([] : List Token).length + (cleanup tokens).length ≤
      (passFrom [] (cleanup tokens)).length := by
    rw [← pass, pass_cleanup]
    simp
  exact (isChain_of_passFrom hlength).1

end Cleanup

/-! ## Groups around terms -/

/-- Each term with the starts of the groups it is in, from the inside out, when the groups that start at
`groups` are open before. The end of a group that is not open ends none. -/
def Token.termsWithin (groups : List Token) : List Token → List (Token × List Token)
  | [] => []
  | t :: rest =>
    match t.kind with
    | .term _ => (t, groups) :: termsWithin groups rest
    | .openGroup _ => termsWithin (t :: groups) rest
    | .closeGroup => termsWithin groups.tail rest
    | .joiner _ | .negation => termsWithin groups rest

namespace Cleanup

open Token

/-- No term is taken out, and none loses or gains a group. -/
theorem survives_termsWithin : Survives termsWithin where
  cons := by
    intro rest rest' h groups t
    obtain ⟨kind, position⟩ := t
    cases kind with
    | term x => exact congrArg (_ :: ·) (h groups)
    | openGroup _ | closeGroup | joiner _ | negation => exact h _
  joiner := by
    intro t ht groups rest
    obtain ⟨j, p, rfl⟩ := exists_eq_joiner ht
    rfl
  negation := by
    intro t ht groups rest
    obtain ⟨p, rfl⟩ := exists_eq_negation ht
    rfl
  empty := by
    intro t u rest h groups
    obtain ⟨n, p, q, rfl, rfl⟩ := exists_eq_of_startsEmpty h
    rfl

/-! ## Joiners in a row -/

/-- Joiners after another one are taken out. -/
theorem passFrom_of_blocksJoiner {kept run : List Token} (hkept : blocksJoiner kept = true)
    (hrun : Joiners run) (rest : List Token) : passFrom kept (run ++ rest) = passFrom kept rest := by
  induction run with
  | nil => rfl
  | cons t run ih =>
      obtain ⟨ht, hrun⟩ := List.forall_mem_cons.mp hrun
      have hloose : isLoose kept t (run ++ rest) = true := by rw [isLoose, ht, hkept]; rfl
      rw [List.cons_append, passFrom_isLoose hloose]
      exact ih hrun

variable {j : Token} {run : List Token}

/-- Of joiners in a row, no other than the first is kept. -/
theorem passFrom_run (hj : j.kind.isJoiner = true) (hrun : Joiners run) (kept after : List Token) :
    (passFrom kept (j :: (run ++ after))).Sublist (kept.reverse ++ j :: after) := by
  have hempty := startsEmpty_of_isJoiner hj (run ++ after)
  cases hloose : isLoose kept j (run ++ after) with
  | false =>
      have hblocks : blocksJoiner (j :: kept) = true := by rw [blocksJoiner, hj]; rfl
      rw [passFrom_kept hempty hloose, passFrom_of_blocksJoiner hblocks hrun]
      simpa using passFrom_sublist (j :: kept) after
  | true =>
      have hnone : passFrom kept (run ++ after) = passFrom kept after := by
        cases run with
        | nil => rfl
        | cons t run =>
            have ht := Token.Kind.isCloseGroup_of_isJoiner (hrun t (List.mem_cons_self ..))
            have hblocks : blocksJoiner kept = true := by simpa [isLoose, hj, ht] using hloose
            exact passFrom_of_blocksJoiner hblocks hrun after
      rw [passFrom_isLoose hloose, hnone]
      exact (passFrom_sublist kept after).trans
        (List.Sublist.append (List.Sublist.refl _) (List.sublist_cons_self j after))

theorem cleanup_run_sublist (hj : j.kind.isJoiner = true) (hrun : Joiners run)
    (before after : List Token) :
    (cleanup (before ++ j :: (run ++ after))).Sublist (before ++ j :: after) := by
  have hparts : Parts before (j :: (run ++ after)) := by
    intro t ht hwaits u hu
    obtain rfl : j = u := by simpa using hu
    exact Token.Kind.isCloseGroup_of_isJoiner hj
  have hpass : (pass (before ++ j :: (run ++ after))).Sublist (before ++ j :: after) := by
    rw [pass, passFrom_append [] hparts]
    refine (passFrom_run hj hrun _ after).trans ?_
    rw [List.reverse_reverse]
    exact List.Sublist.append (passFrom_sublist [] before) (List.Sublist.refl _)
  rw [← cleanup_pass]
  exact (cleanup_sublist _).trans hpass

/-- Alone, the first is left of them. -/
theorem cleanup_run (hj : j.kind.isJoiner = true) (hrun : Joiners run) : cleanup (j :: run) = [j] := by
  have hloose : isLoose [] j run = false := by
    cases run with
    | nil => simp [isLoose, blocksJoiner]
    | cons t run =>
        have ht := Token.Kind.isCloseGroup_of_isJoiner (hrun t (List.mem_cons_self ..))
        simp [isLoose, blocksJoiner, ht]
  have hblocks : blocksJoiner [j] = true := by rw [blocksJoiner, hj]; rfl
  have hpass : pass (j :: run) = [j] := by
    rw [pass, passFrom_kept (startsEmpty_of_isJoiner hj run) hloose]
    simpa [passFrom] using passFrom_of_blocksJoiner hblocks hrun []
  rw [← cleanup_pass, hpass]
  exact cleanup_of_isChain (.singleton j)

theorem Solid.append_closes {tokens closes : List Token} (h : Solid tokens)
    (hcloses : ∀ t ∈ closes, t.kind.isCloseGroup = true) : Solid (tokens ++ closes) := by
  induction closes using List.reverseRecOn with
  | nil => simpa using h
  | append_singleton closes t ih =>
      rw [← List.append_assoc]
      exact (ih fun u hu => hcloses u (by simp [hu])).snoc (hcloses t (by simp))

theorem Solid.append_signs {tokens signs : List Token} (h : Solid tokens)
    (hsigns : ∀ t ∈ signs, (t.kind.isOpenGroup || t.kind.isNegation) = true) :
    Solid (signs ++ tokens) := by
  induction signs with
  | nil => exact h
  | cons t signs ih =>
      obtain ⟨ht, hrest⟩ := List.forall_mem_cons.mp hsigns
      obtain ⟨kind, position⟩ := t
      cases kind with
      | openGroup _ | negation => exact (ih hrest).cons rfl rfl
      | term _ | closeGroup | joiner _ => cases ht

theorem solid_of_isTerm {t : Token} (h : t.kind.isTerm = true) : Solid [t] := by
  obtain ⟨x, p, rfl⟩ := exists_eq_term h
  exact solid_term x p

/-- Between two operands the first of them is left. -/
theorem cleanup_run_between {left right : List Token} (hleft : Solid left) (hright : Solid right)
    (hj : j.kind.isJoiner = true) (hrun : Joiners run) (before after : List Token) :
    cleanup (before ++ (left ++ (j :: run ++ (right ++ after)))) =
      cleanup before ++ (left ++ (j :: (right ++ cleanup after))) := by
  rw [cleanup_between hleft, cleanup_between hright, cleanup_run hj hrun]
  rfl

/-- **The normal form.** Cleanup ends, after passes that each take something out and a last one that takes
nothing out. What is left is tidy, is not changed by another cleanup, and holds every term in its place,
inside the same groups. Of joiners in a row none but the first is left, and that one is left between two
terms, wherever groups end or start around the joiners. -/
theorem cleanup_normalForm (tokens : List Token) :
    ((∃ n ≤ tokens.length, cleanup tokens = pass^[n] tokens ∧
        ∀ m < n, (pass^[m + 1] tokens).length < (pass^[m] tokens).length) ∧
      pass (cleanup tokens) = cleanup tokens) ∧
    Tidy (cleanup tokens) ∧
    ((cleanup tokens).Sublist tokens ∧
      (cleanup tokens).filter (·.kind.isTerm) = tokens.filter (·.kind.isTerm) ∧
      Token.termsWithin [] (cleanup tokens) = Token.termsWithin [] tokens) ∧
    (∀ before j run after, tokens = before ++ j :: (run ++ after) → j.kind.isJoiner = true →
      Joiners run → (cleanup tokens).Sublist (before ++ j :: after) ∧
        ∀ before' a closes signs b after', before = before' ++ a :: closes →
          after = signs ++ b :: after' → a.kind.isTerm = true → b.kind.isTerm = true →
            (∀ t ∈ closes, t.kind.isCloseGroup = true) →
              (∀ t ∈ signs, (t.kind.isOpenGroup || t.kind.isNegation) = true) →
                cleanup tokens =
                  cleanup before' ++ a :: closes ++ j :: (signs ++ b :: cleanup after')) ∧
    cleanup (cleanup tokens) = cleanup tokens := by
  refine ⟨⟨exists_passes tokens, pass_cleanup tokens⟩, tidy_of_isChain (isChain_cleanup tokens),
    ⟨cleanup_sublist tokens, filter_isTerm_cleanup tokens, survives_termsWithin.cleanup [] tokens⟩, ?_,
    cleanup_of_isChain (isChain_cleanup tokens)⟩
  rintro before j run after rfl hj hrun
  refine ⟨cleanup_run_sublist hj hrun before after, ?_⟩
  rintro before' a closes signs b after' rfl rfl ha hb hcloses hsigns
  have hleft : Solid (a :: closes) := (solid_of_isTerm ha).append_closes hcloses
  have hright : Solid (signs ++ [b]) := (solid_of_isTerm hb).append_signs hsigns
  have hbetween := cleanup_run_between hleft hright hj hrun before' after'
  simpa using hbetween

/-- `(a) & | -(b)` with an empty group in front. -/
theorem cleanup_normalForm_run :
    let tokens : List Token := [⟨.openGroup false, 0⟩, ⟨.closeGroup, 1⟩, ⟨.openGroup false, 3⟩,
      ⟨.term (.text none .word "a"), 4⟩, ⟨.closeGroup, 5⟩, ⟨.joiner .ampersand, 7⟩, ⟨.joiner .pipe, 9⟩,
      ⟨.openGroup true, 11⟩, ⟨.term (.text none .word "b"), 13⟩, ⟨.closeGroup, 14⟩]
    cleanup tokens = [⟨.openGroup false, 3⟩, ⟨.term (.text none .word "a"), 4⟩, ⟨.closeGroup, 5⟩,
      ⟨.joiner .ampersand, 7⟩, ⟨.openGroup true, 11⟩, ⟨.term (.text none .word "b"), 13⟩,
      ⟨.closeGroup, 14⟩] := by
  intro tokens
  have hrun := (cleanup_normalForm tokens).2.2.2.1 (tokens.take 5) ⟨.joiner .ampersand, 7⟩
    [⟨.joiner .pipe, 9⟩] (tokens.drop 7) rfl rfl (by simp [Joiners, Token.Kind.isJoiner])
  have hbetween := hrun.2 (tokens.take 3) ⟨.term (.text none .word "a"), 4⟩ [⟨.closeGroup, 5⟩]
    [⟨.openGroup true, 11⟩] ⟨.term (.text none .word "b"), 13⟩ [⟨.closeGroup, 14⟩] rfl rfl rfl rfl
    (by simp [Token.Kind.isCloseGroup]) (by simp [Token.Kind.isOpenGroup])
  rw [hbetween]
  simp [tokens, cleanup, pass, passFrom, Token.Kind.isOpenGroup, Token.Kind.isCloseGroup,
    Token.Kind.isJoiner, dropNegation]

end Cleanup

end RecordQuery
