import Mathlib.Data.List.Chain
import RecordQuery.Query.Cleanup

/-!
# What cleanup keeps

Cleanup takes tokens out and moves none, and every term stays. Tokens of which no two neighbours are
in each other's way stay as they are.
-/

namespace RecordQuery

namespace Token.Kind

variable {k : Kind}

theorem isTerm_of_isJoiner (h : k.isJoiner = true) : k.isTerm = false := by
  cases k <;> simp_all [isJoiner, isTerm]

theorem isTerm_of_isOpenGroup (h : k.isOpenGroup = true) : k.isTerm = false := by
  cases k <;> simp_all [isOpenGroup, isTerm]

theorem isTerm_of_isCloseGroup (h : k.isCloseGroup = true) : k.isTerm = false := by
  cases k <;> simp_all [isCloseGroup, isTerm]

end Token.Kind

/-! ## Tokens by their kinds -/

namespace Token

variable {t : Token}

theorem exists_eq_term (h : t.kind.isTerm = true) : ∃ x p, t = ⟨.term x, p⟩ := by
  obtain ⟨kind, p⟩ := t
  cases kind with
  | term x => exact ⟨x, p, rfl⟩
  | joiner _ | openGroup _ | closeGroup | negation => cases h

theorem exists_eq_joiner (h : t.kind.isJoiner = true) : ∃ j p, t = ⟨.joiner j, p⟩ := by
  obtain ⟨kind, p⟩ := t
  cases kind with
  | joiner j => exact ⟨j, p, rfl⟩
  | term _ | openGroup _ | closeGroup | negation => cases h

theorem exists_eq_openGroup (h : t.kind.isOpenGroup = true) : ∃ n p, t = ⟨.openGroup n, p⟩ := by
  obtain ⟨kind, p⟩ := t
  cases kind with
  | openGroup n => exact ⟨n, p, rfl⟩
  | term _ | joiner _ | closeGroup | negation => cases h

theorem exists_eq_closeGroup (h : t.kind.isCloseGroup = true) : ∃ p, t = ⟨.closeGroup, p⟩ := by
  obtain ⟨kind, p⟩ := t
  cases kind with
  | closeGroup => exact ⟨p, rfl⟩
  | term _ | joiner _ | openGroup _ | negation => cases h

theorem exists_eq_negation (h : t.kind.isNegation = true) : ∃ p, t = ⟨.negation, p⟩ := by
  obtain ⟨kind, p⟩ := t
  cases kind with
  | negation => exact ⟨p, rfl⟩
  | term _ | joiner _ | openGroup _ | closeGroup => cases h

end Token

namespace Cleanup

/-! ## One pass -/

theorem dropNegation_sublist (kept : List Token) : (dropNegation kept).Sublist kept := by
  unfold dropNegation
  split
  · exact List.sublist_cons_self ..
  · exact List.Sublist.refl _

theorem filter_isTerm_dropNegation (kept : List Token) :
    (dropNegation kept).filter (·.kind.isTerm) = kept.filter (·.kind.isTerm) := by
  unfold dropNegation
  split
  · rfl
  · rfl

theorem passFrom_sublist (kept tokens : List Token) :
    (passFrom kept tokens).Sublist (kept.reverse ++ tokens) := by
  fun_induction passFrom kept tokens with
  | case1 kept => simp
  | case2 kept t h => exact List.sublist_append_left ..
  | case3 kept t h => simp
  | case4 kept t u rest h ih =>
      refine ih.trans ?_
      refine List.Sublist.append (dropNegation_sublist kept).reverse ?_
      exact (List.sublist_cons_self u rest).trans (List.sublist_cons_self t _)
  | case5 kept t u rest h hjoiner ih =>
      exact ih.trans (List.Sublist.append (List.Sublist.refl _) (List.sublist_cons_self t _))
  | case6 kept t u rest h hjoiner ih => simpa using ih

theorem filter_isTerm_passFrom (kept tokens : List Token) :
    (passFrom kept tokens).filter (·.kind.isTerm) =
      (kept.reverse ++ tokens).filter (·.kind.isTerm) := by
  fun_induction passFrom kept tokens with
  | case1 kept => simp
  | case2 kept t h =>
      have ht := Token.Kind.isTerm_of_isJoiner (Bool.and_eq_true_iff.mp h).1
      simp [ht]
  | case3 kept t h => simp
  | case4 kept t u rest h ih =>
      obtain ⟨hopen, hclose⟩ := Bool.and_eq_true_iff.mp h
      have ht := Token.Kind.isTerm_of_isOpenGroup hopen
      have hu := Token.Kind.isTerm_of_isCloseGroup hclose
      rw [ih, List.filter_append, List.filter_reverse, filter_isTerm_dropNegation]
      simp [ht, hu]
  | case5 kept t u rest h hjoiner ih =>
      have ht := Token.Kind.isTerm_of_isJoiner (Bool.and_eq_true_iff.mp hjoiner).1
      rw [ih]
      simp [ht]
  | case6 kept t u rest h hjoiner ih => simpa using ih

/-- Two neighbours of which one has to go: the ends of an empty group, or a joiner after another
one, after the start of a group or before its end. -/
def clash (k l : Token.Kind) : Bool :=
  (k.isOpenGroup || k.isJoiner) && (l.isCloseGroup || l.isJoiner)

/-- A pass over tokens without a clash takes nothing out. -/
theorem passFrom_of_isChain (kept tokens : List Token)
    (h : (kept.reverse ++ tokens).IsChain (clash ·.kind ·.kind = false)) :
    passFrom kept tokens = kept.reverse ++ tokens := by
  have hblocks : ∀ {kept : List Token} {t : Token} {rest : List Token},
      (kept.reverse ++ t :: rest).IsChain (clash ·.kind ·.kind = false) → t.kind.isJoiner = true →
        blocksJoiner kept = false := by
    intro kept t rest hchain ht
    cases kept with
    | nil => rfl
    | cons p kept =>
        rw [List.reverse_cons, List.append_assoc] at hchain
        have hpair := (List.isChain_append.mp hchain).2.1.rel
        simpa [clash, ht, blocksJoiner, Bool.or_comm] using hpair
  fun_induction passFrom kept tokens with
  | case1 kept => simp
  | case2 kept t hjoiner =>
      obtain ⟨ht, hkept⟩ := Bool.and_eq_true_iff.mp hjoiner
      simp [hblocks h ht] at hkept
  | case3 kept t hjoiner => simp
  | case4 kept t u rest hempty ih =>
      obtain ⟨hopen, hclose⟩ := Bool.and_eq_true_iff.mp hempty
      have hpair := (List.isChain_append.mp h).2.1.rel
      simp [clash, hopen, hclose] at hpair
  | case5 kept t u rest hempty hjoiner ih =>
      obtain ⟨ht, hside⟩ := Bool.and_eq_true_iff.mp hjoiner
      have hpair := (List.isChain_append.mp h).2.1.rel
      simp only [hblocks h ht, Bool.false_or] at hside
      simp [clash, ht, hside] at hpair
  | case6 kept t u rest hempty hjoiner ih =>
      rw [ih (by simpa using h)]
      simp

end Cleanup

/-! ## All passes -/

theorem cleanup_sublist (tokens : List Token) : (cleanup tokens).Sublist tokens := by
  fun_induction cleanup tokens with
  | case1 tokens h ih => exact ih.trans (Cleanup.passFrom_sublist [] tokens)
  | case2 tokens h => exact List.Sublist.refl _

/-- Every term stays. -/
theorem filter_isTerm_cleanup (tokens : List Token) :
    (cleanup tokens).filter (·.kind.isTerm) = tokens.filter (·.kind.isTerm) := by
  fun_induction cleanup tokens with
  | case1 tokens h ih => exact ih.trans (Cleanup.filter_isTerm_passFrom [] tokens)
  | case2 tokens h => rfl

/-- Tokens without a clash stay as they are. -/
theorem cleanup_of_isChain {tokens : List Token}
    (h : tokens.IsChain (Cleanup.clash ·.kind ·.kind = false)) : cleanup tokens = tokens := by
  have hpass : Cleanup.pass tokens = tokens := Cleanup.passFrom_of_isChain [] tokens h
  rw [cleanup, hpass, if_neg (Nat.lt_irrefl _)]

end RecordQuery
