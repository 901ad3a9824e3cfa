import RecordQuery.Proofs.Query.Cleanup

/-!
# Groups under cleanup

A pass goes on token by token: it takes out an empty group, or a joiner that is loose on one side, or
keeps the token. None of this changes how many groups are open at the end, so balanced tokens stay
balanced.
-/

namespace RecordQuery

namespace Cleanup

/-! ## Steps of a pass -/

theorem dropNegation_cons (t : Token) (kept : List Token) :
    dropNegation (t :: kept) = if t.kind.isNegation then kept else t :: kept := by
  obtain ⟨kind, position⟩ := t
  cases kind <;> rfl

theorem dropNegation_append {base : List Token} (h : ∀ t ∈ base.head?, t.kind.isNegation = false)
    (kept : List Token) : dropNegation (kept ++ base) = dropNegation kept ++ base := by
  cases kept with
  | nil =>
      cases base with
      | nil => rfl
      | cons t base =>
          rw [List.nil_append, dropNegation_cons, if_neg (by simp [h t rfl])]
          rfl
  | cons t kept =>
      rw [List.cons_append, dropNegation_cons, dropNegation_cons]
      split <;> rfl

/-- Whether a token starts a group that ends right after it. -/
def startsEmpty (t : Token) (rest : List Token) : Bool :=
  t.kind.isOpenGroup && rest.head?.any (·.kind.isCloseGroup)

/-- Whether a joiner between these tokens has nothing to join on one side. -/
def isLoose (kept : List Token) (t : Token) (rest : List Token) : Bool :=
  t.kind.isJoiner && (blocksJoiner kept || rest.head?.any (·.kind.isCloseGroup))

theorem startsEmpty_of_isJoiner {t : Token} (h : t.kind.isJoiner = true) (rest : List Token) :
    startsEmpty t rest = false := by
  obtain ⟨j, p, rfl⟩ := Token.exists_eq_joiner h
  rfl

theorem exists_eq_of_startsEmpty {t u : Token} {rest : List Token}
    (h : startsEmpty t (u :: rest) = true) :
    ∃ n p q, t = ⟨.openGroup n, p⟩ ∧ u = ⟨.closeGroup, q⟩ := by
  obtain ⟨hopen, hclose⟩ := Bool.and_eq_true_iff.mp h
  obtain ⟨n, p, rfl⟩ := Token.exists_eq_openGroup hopen
  obtain ⟨q, rfl⟩ := Token.exists_eq_closeGroup hclose
  exact ⟨n, p, q, rfl, rfl⟩

theorem passFrom_startsEmpty (kept : List Token) {t u : Token} {rest : List Token}
    (h : startsEmpty t (u :: rest) = true) :
    passFrom kept (t :: u :: rest) = passFrom (dropNegation kept) rest := by
  rw [passFrom, if_pos (by simpa [startsEmpty] using h)]

theorem passFrom_isLoose {kept : List Token} {t : Token} {rest : List Token}
    (h : isLoose kept t rest = true) : passFrom kept (t :: rest) = passFrom kept rest := by
  cases rest with
  | nil =>
      rw [passFrom, passFrom, if_pos (by simpa [isLoose] using h)]
  | cons u rest =>
      have hempty : ¬ (t.kind.isOpenGroup && u.kind.isCloseGroup) = true := by
        have hjoiner := startsEmpty_of_isJoiner (Bool.and_eq_true_iff.mp h).1 (u :: rest)
        simpa [startsEmpty] using hjoiner
      rw [passFrom, if_neg hempty, if_pos (by simpa [isLoose] using h)]

theorem passFrom_kept {kept : List Token} {t : Token} {rest : List Token}
    (hempty : startsEmpty t rest = false) (hloose : isLoose kept t rest = false) :
    passFrom kept (t :: rest) = passFrom (t :: kept) rest := by
  cases rest with
  | nil =>
      have hnot : ¬ (t.kind.isJoiner && blocksJoiner kept) = true := by simpa [isLoose] using hloose
      rw [passFrom, passFrom, if_neg hnot]
  | cons u rest =>
      have hopen : ¬ (t.kind.isOpenGroup && u.kind.isCloseGroup) = true := by
        simpa [startsEmpty] using hempty
      have hjoiner : ¬ (t.kind.isJoiner && (blocksJoiner kept || u.kind.isCloseGroup)) = true := by
        simpa [isLoose] using hloose
      rw [passFrom, if_neg hopen, if_neg hjoiner]

/-- Induction along a pass: what holds at its end holds all along if each step carries it back. -/
theorem passFrom_induction {motive : List Token → List Token → Prop}
    (nil : ∀ kept, motive kept [])
    (empty : ∀ kept t u rest, startsEmpty t (u :: rest) = true →
      motive (dropNegation kept) rest → motive kept (t :: u :: rest))
    (loose : ∀ kept t rest, isLoose kept t rest = true →
      motive kept rest → motive kept (t :: rest))
    (keep : ∀ kept t rest, startsEmpty t rest = false → isLoose kept t rest = false →
      motive (t :: kept) rest → motive kept (t :: rest))
    (kept tokens : List Token) : motive kept tokens := by
  -- An empty group takes two tokens at once.
  induction hn : tokens.length using Nat.strongRecOn generalizing kept tokens with
  | ind n ih =>
      subst hn
      cases tokens with
      | nil => exact nil kept
      | cons t rest =>
          cases hempty : startsEmpty t rest with
          | true =>
              cases rest with
              | nil => simp [startsEmpty] at hempty
              | cons u rest =>
                  have hlt : rest.length < (t :: u :: rest).length := Nat.lt_add_of_pos_right Nat.two_pos
                  exact empty kept t u rest hempty (ih _ hlt _ _ rfl)
          | false =>
              cases hloose : isLoose kept t rest with
              | true => exact loose kept t rest hloose (ih _ (by simp) _ _ rfl)
              | false => exact keep kept t rest hempty hloose (ih _ (by simp) _ _ rfl)

/-! ## Kinds -/

section
variable {f : Token → Token}

theorem dropNegation_map (hf : ∀ t, (f t).kind = t.kind) (kept : List Token) :
    dropNegation (kept.map f) = (dropNegation kept).map f := by
  cases kept with
  | nil => rfl
  | cons t kept =>
      rw [List.map_cons, dropNegation_cons, dropNegation_cons, hf]
      split <;> rfl

theorem startsEmpty_map (hf : ∀ t, (f t).kind = t.kind) (t : Token) (rest : List Token) :
    startsEmpty (f t) (rest.map f) = startsEmpty t rest := by
  cases rest <;> simp [startsEmpty, hf]

theorem isLoose_map (hf : ∀ t, (f t).kind = t.kind) (kept : List Token) (t : Token)
    (rest : List Token) : isLoose (kept.map f) (f t) (rest.map f) = isLoose kept t rest := by
  cases kept <;> cases rest <;> simp [isLoose, blocksJoiner, hf]

/-- Tokens are told apart by their kinds alone. -/
theorem passFrom_map (hf : ∀ t, (f t).kind = t.kind) (kept tokens : List Token) :
    passFrom (kept.map f) (tokens.map f) = (passFrom kept tokens).map f := by
  induction kept, tokens using passFrom_induction with
  | nil kept => simp [passFrom]
  | empty kept t u rest h ih =>
      have hmap := (startsEmpty_map hf t (u :: rest)).trans h
      rw [List.map_cons] at hmap
      rw [passFrom_startsEmpty kept h, List.map_cons, List.map_cons, passFrom_startsEmpty _ hmap,
        dropNegation_map hf, ih]
  | loose kept t rest h ih =>
      rw [passFrom_isLoose h, List.map_cons, passFrom_isLoose (by rw [isLoose_map hf, h]), ih]
  | keep kept t rest hempty hloose ih =>
      rw [passFrom_kept hempty hloose, List.map_cons, passFrom_kept
        (by rw [startsEmpty_map hf, hempty]) (by rw [isLoose_map hf, hloose]), ← ih, List.map_cons]

end

end Cleanup

theorem cleanup_map {f : Token → Token} (hf : ∀ t, (f t).kind = t.kind) (tokens : List Token) :
    cleanup (tokens.map f) = (cleanup tokens).map f := by
  have hpass : ∀ tokens, Cleanup.pass (tokens.map f) = (Cleanup.pass tokens).map f :=
    fun tokens => Cleanup.passFrom_map hf [] tokens
  fun_induction cleanup tokens with
  | case1 tokens h ih =>
      rw [cleanup, hpass, List.length_map, List.length_map, if_pos h, ih]
  | case2 tokens h => rw [cleanup, hpass, List.length_map, List.length_map, if_neg h]

/-! ## Depth -/

namespace Token

/-- How many groups are open after a token; none if it ends a group and none is open. -/
def depthAfter? (depth : Nat) (t : Token) : Option Nat :=
  match t.kind with
  | .openGroup _ => some (depth + 1)
  | .closeGroup => if depth = 0 then none else some (depth - 1)
  | _ => some depth

/-- How many groups are open after these tokens; none if one of them ends a group that is not open. -/
def depth? (depth : Nat) (tokens : List Token) : Option Nat := tokens.foldlM depthAfter? depth

/-- Each group that starts ends, and each end of a group ends one. -/
def Balanced (tokens : List Token) : Prop := depth? 0 tokens = some 0

instance (tokens : List Token) : Decidable (Balanced tokens) :=
  inferInstanceAs (Decidable (_ = _))

theorem depth?_cons (depth : Nat) (t : Token) (rest : List Token) :
    depth? depth (t :: rest) = (depthAfter? depth t).bind (depth? · rest) :=
  List.foldlM_cons

theorem depth?_append (depth : Nat) (first second : List Token) :
    depth? depth (first ++ second) = (depth? depth first).bind (depth? · second) :=
  List.foldlM_append

/-- Places do not matter for the depth. -/
theorem depth?_map {f : Token → Token} (hf : ∀ t, (f t).kind = t.kind) (depth : Nat)
    (tokens : List Token) : depth? depth (tokens.map f) = depth? depth tokens := by
  induction tokens generalizing depth with
  | nil => rfl
  | cons t tokens ih =>
      have hstep : depthAfter? depth (f t) = depthAfter? depth t := by
        rw [depthAfter?, depthAfter?, hf]
      rw [List.map_cons, depth?_cons, depth?_cons, hstep, funext ih]

/-- Only signs of grouping change the depth. -/
theorem depth?_cons_of_isJoiner {t : Token} (h : t.kind.isJoiner = true) (depth : Nat)
    (rest : List Token) : depth? depth (t :: rest) = depth? depth rest := by
  obtain ⟨j, p, rfl⟩ := exists_eq_joiner h
  rfl

theorem depth?_cons_of_isNegation {t : Token} (h : t.kind.isNegation = true) (depth : Nat)
    (rest : List Token) : depth? depth (t :: rest) = depth? depth rest := by
  obtain ⟨p, rfl⟩ := exists_eq_negation h
  rfl

theorem depth?_of_startsEmpty {t u : Token} {rest : List Token}
    (h : Cleanup.startsEmpty t (u :: rest) = true) (depth : Nat) :
    depth? depth (t :: u :: rest) = depth? depth rest := by
  obtain ⟨n, p, q, rfl, rfl⟩ := Cleanup.exists_eq_of_startsEmpty h
  rfl

end Token

namespace Cleanup

open Token

/-! ## What cleanup cannot change -/

/-- What is told of tokens from a state `s` on takes no notice of joiners, negations and empty groups. -/
structure Survives {σ α : Type} (f : σ → List Token → α) : Prop where
  cons : ∀ {rest rest' : List Token}, (∀ s, f s rest = f s rest') →
    ∀ s t, f s (t :: rest) = f s (t :: rest')
  joiner : ∀ {t : Token}, t.kind.isJoiner = true → ∀ s rest, f s (t :: rest) = f s rest
  negation : ∀ {t : Token}, t.kind.isNegation = true → ∀ s rest, f s (t :: rest) = f s rest
  empty : ∀ {t u : Token} {rest : List Token}, startsEmpty t (u :: rest) = true →
    ∀ s, f s (t :: u :: rest) = f s rest

namespace Survives

variable {σ α : Type} {f : σ → List Token → α}

/-- Where the same is told of two lists from every state on, it is told of both behind any tokens. -/
theorem append (h : Survives f) {second second' : List Token} (hsame : ∀ s, f s second = f s second')
    (s : σ) (first : List Token) : f s (first ++ second) = f s (first ++ second') := by
  induction first generalizing s with
  | nil => exact hsame s
  | cons t first ih => exact h.cons ih s t

theorem dropNegation (h : Survives f) (s : σ) (kept rest : List Token) :
    f s ((dropNegation kept).reverse ++ rest) = f s (kept.reverse ++ rest) := by
  cases kept with
  | nil => rfl
  | cons t kept =>
      rw [dropNegation_cons]
      split
      · next ht =>
          rw [List.reverse_cons, List.append_assoc]
          exact h.append (fun s => (h.negation ht s rest).symm) _ _
      · rfl

theorem passFrom (h : Survives f) (s : σ) (kept tokens : List Token) :
    f s (passFrom kept tokens) = f s (kept.reverse ++ tokens) := by
  induction kept, tokens using passFrom_induction with
  | nil kept => simp [Cleanup.passFrom]
  | empty kept t u rest hempty ih =>
      rw [passFrom_startsEmpty kept hempty, ih, h.dropNegation]
      exact h.append (fun s => (h.empty hempty s).symm) _ _
  | loose kept t rest hloose ih =>
      rw [passFrom_isLoose hloose, ih]
      have hjoiner := (Bool.and_eq_true_iff.mp hloose).1
      exact h.append (fun s => (h.joiner hjoiner s rest).symm) _ _
  | keep kept t rest hempty hloose ih =>
      rw [passFrom_kept hempty hloose, ih, List.reverse_cons, List.append_assoc]
      rfl

theorem cleanup (h : Survives f) (s : σ) (tokens : List Token) : f s (cleanup tokens) = f s tokens := by
  fun_induction RecordQuery.cleanup tokens with
  | case1 tokens hlt ih => exact ih.trans (h.passFrom s [] tokens)
  | case2 tokens hnot => rfl

end Survives

theorem survives_depth? : Survives depth? where
  cons h s t := by rw [depth?_cons, depth?_cons, funext h]
  joiner h s rest := depth?_cons_of_isJoiner h s rest
  negation h s rest := depth?_cons_of_isNegation h s rest
  empty h s := depth?_of_startsEmpty h s

/-- What a pass takes out closes as many groups as it opens. -/
theorem depth?_passFrom (depth : Nat) (kept tokens : List Token) :
    depth? depth (passFrom kept tokens) = depth? depth (kept.reverse ++ tokens) :=
  survives_depth?.passFrom depth kept tokens

end Cleanup

/-- Cleanup leaves as many groups open as there were. -/
theorem depth?_cleanup (depth : Nat) (tokens : List Token) :
    Token.depth? depth (cleanup tokens) = Token.depth? depth tokens :=
  Cleanup.survives_depth?.cleanup depth tokens

end RecordQuery
