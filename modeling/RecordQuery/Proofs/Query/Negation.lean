import RecordQuery.Query.Token
import Mathlib.Data.List.Basic
import Mathlib.Data.List.Infix

/-!
# Negated places

Whether a term at some place in a query is negated, told from the tokens before the place alone: by
a negation that still waits for its operand, or by a group that is open there and was negated. The
same is computed by one pass that keeps the open groups, and the two agree.
-/

namespace RecordQuery.Token

/-- Whether a negation waits for its operand after these tokens: one has been read, and since then
neither a term nor a sign of grouping. -/
def negationWaits (before : List Token) : Bool :=
  (before.reverse.takeWhile fun t => t.kind.isNegation || t.kind.isJoiner).any (·.kind.isNegation)

/-- A group that starts right before these tokens is open after them: at no place among them have
more groups ended than started. -/
def StaysOpen (inside : List Token) : Prop :=
  ∀ read, read <+: inside →
    read.countP (·.kind.isCloseGroup) ≤ read.countP (·.kind.isOpenGroup)

/-- A term right after these tokens is negated: a negation waits for it, or some open group is
negated by its own sign or by a negation that waited for the group. -/
def NegatedAfter (before : List Token) : Prop :=
  negationWaits before = true ∨
    ∃ outside negated position inside,
      before = outside ++ ⟨.openGroup negated, position⟩ :: inside ∧ StaysOpen inside ∧
        (negated = true ∨ negationWaits outside = true)

/-! ## Waiting negations -/

/-- Whether a negation waits after one more token. -/
def waitsAfter (waits : Bool) (t : Token) : Bool := t.kind.isNegation || (t.kind.isJoiner && waits)

theorem negationWaits_append_singleton (before : List Token) (t : Token) :
    negationWaits (before ++ [t]) = t.waitsAfter (negationWaits before) := by
  obtain ⟨kind, position⟩ := t
  cases kind <;>
    simp [negationWaits, waitsAfter, Token.Kind.isNegation, Token.Kind.isJoiner]

/-! ## Open groups -/

theorem staysOpen_nil : StaysOpen [] := by
  intro read hread
  rw [List.prefix_nil.mp hread]
  exact le_refl _

theorem StaysOpen.le {inside : List Token} (h : StaysOpen inside) :
    inside.countP (·.kind.isCloseGroup) ≤ inside.countP (·.kind.isOpenGroup) :=
  h inside (List.prefix_refl inside)

theorem staysOpen_append_singleton (inside : List Token) (t : Token) :
    StaysOpen (inside ++ [t]) ↔
      StaysOpen inside ∧ (inside ++ [t]).countP (·.kind.isCloseGroup) ≤
        (inside ++ [t]).countP (·.kind.isOpenGroup) := by
  constructor
  · intro h
    refine ⟨?_, h.le⟩
    intro read hread
    exact h read (hread.trans (List.prefix_append inside [t]))
  · rintro ⟨hinside, hlast⟩ read hread
    rcases List.prefix_concat_iff.mp hread with rfl | hread
    · exact hlast
    · exact hinside read hread

/-- Some group is open after these tokens, with `depth` open groups inside it, and it is negated or
not as `negated` says. -/
def OpenAt (before : List Token) (depth : Nat) (negated : Bool) : Prop :=
  ∃ outside sign position inside,
    before = outside ++ ⟨.openGroup sign, position⟩ :: inside ∧ StaysOpen inside ∧
      inside.countP (·.kind.isOpenGroup) = inside.countP (·.kind.isCloseGroup) + depth ∧
        negated = (sign || negationWaits outside)

/-- The last token either starts a group itself or is inside a group that started before it. -/
theorem append_singleton_eq_iff {before outside inside : List Token} {t start : Token} :
    before ++ [t] = outside ++ start :: inside ↔
      (before = outside ∧ t = start ∧ inside = []) ∨
        ∃ inside', before = outside ++ start :: inside' ∧ inside = inside' ++ [t] := by
  constructor
  · intro h
    rcases List.eq_nil_or_concat inside with rfl | ⟨inside', last, rfl⟩
    · obtain ⟨hbefore, hlast⟩ := List.append_inj' h rfl
      exact .inl ⟨hbefore, List.singleton_inj.mp hlast, rfl⟩
    · rw [List.concat_eq_append, ← List.cons_append, ← List.append_assoc] at h
      obtain ⟨hbefore, hlast⟩ := List.append_inj' h rfl
      rw [List.singleton_inj.mp hlast, List.concat_eq_append]
      exact .inr ⟨inside', hbefore, rfl⟩
  · rintro (⟨rfl, rfl, rfl⟩ | ⟨inside', rfl, rfl⟩)
    · rfl
    · simp

/-- One more token moves the open groups outward or inward, or starts the innermost one. -/
theorem openAt_append_singleton (before : List Token) (t : Token) (depth : Nat) (negated : Bool) :
    OpenAt (before ++ [t]) depth negated ↔
      (depth = 0 ∧ ∃ n, t.kind = .openGroup n ∧ negated = (n || negationWaits before)) ∨
        ∃ d, d + [t].countP (·.kind.isOpenGroup) = depth + [t].countP (·.kind.isCloseGroup) ∧
          OpenAt before d negated := by
  constructor
  · rintro ⟨outside, sign, position, inside, heq, hopen, hcount, hneg⟩
    rcases append_singleton_eq_iff.mp heq with ⟨rfl, rfl, rfl⟩ | ⟨inside', rfl, rfl⟩
    · exact .inl ⟨by simpa using hcount.symm, sign, rfl, hneg⟩
    · obtain ⟨hinside, -⟩ := (staysOpen_append_singleton inside' t).mp hopen
      have hle := hinside.le
      -- As many groups are open inside as have started and not ended.
      rw [List.countP_append, List.countP_append] at hcount
      refine .inr ⟨inside'.countP (·.kind.isOpenGroup) - inside'.countP (·.kind.isCloseGroup),
        by omega, outside, sign, position, inside', rfl, hinside, by omega, hneg⟩
  · rintro (⟨rfl, n, hkind, hneg⟩ | ⟨d, hd, hat⟩)
    · obtain ⟨kind, position⟩ := t
      obtain rfl : kind = .openGroup n := hkind
      exact ⟨before, n, position, [], rfl, staysOpen_nil, rfl, hneg⟩
    · obtain ⟨outside, sign, position, inside, rfl, hopen, hcount, hneg⟩ := hat
      refine ⟨outside, sign, position, inside ++ [t], by simp, ?_, ?_, hneg⟩
      · refine (staysOpen_append_singleton inside t).mpr ⟨hopen, ?_⟩
        rw [List.countP_append, List.countP_append]
        omega
      · rw [List.countP_append, List.countP_append]
        omega

/-! ## One pass -/

/-- The open groups at some place, from the inside out, each with whether it is negated, and whether
a negation waits there. -/
structure Scope where
  groups : List Bool := []
  waits : Bool := false

namespace Scope

def step (s : Scope) (t : Token) : Scope where
  groups := match t.kind with
    | .openGroup n => (n || s.waits) :: s.groups
    | .closeGroup => s.groups.tail
    | _ => s.groups
  waits := t.waitsAfter s.waits

/-- Whether a term at this place is negated. -/
def negates (s : Scope) : Bool := s.waits || s.groups.any id

end Scope

/-- The scope at the end of these tokens. -/
def scope (before : List Token) : Scope := before.foldl Scope.step {}

theorem scope_append_singleton (before : List Token) (t : Token) :
    scope (before ++ [t]) = (scope before).step t := by
  rw [scope, List.foldl_append]
  rfl

theorem waits_scope (before : List Token) : (scope before).waits = negationWaits before := by
  induction before using List.reverseRecOn with
  | nil => rfl
  | append_singleton before t ih =>
      rw [scope_append_singleton, negationWaits_append_singleton, ← ih]
      rfl

/-- The groups of the scope are the groups that are open. -/
theorem getElem?_groups_scope (before : List Token) (depth : Nat) (negated : Bool) :
    (scope before).groups[depth]? = some negated ↔ OpenAt before depth negated := by
  induction before using List.reverseRecOn generalizing depth with
  | nil => simp [scope, OpenAt]
  | append_singleton before t ih =>
      rw [scope_append_singleton, openAt_append_singleton]
      obtain ⟨kind, position⟩ := t
      cases kind with
      | openGroup n =>
          cases depth with
          | zero => simp [Scope.step, Kind.isOpenGroup, Kind.isCloseGroup, waits_scope, eq_comm]
          | succ outer => simp [Scope.step, Kind.isOpenGroup, Kind.isCloseGroup, ih]
      | closeGroup => simp [Scope.step, Kind.isOpenGroup, Kind.isCloseGroup, ih]
      | term x => simp [Scope.step, Kind.isOpenGroup, Kind.isCloseGroup, ih]
      | joiner j => simp [Scope.step, Kind.isOpenGroup, Kind.isCloseGroup, ih]
      | negation => simp [Scope.step, Kind.isOpenGroup, Kind.isCloseGroup, ih]

/-- **Negation by places.** The pass finds a term negated exactly where it is. -/
theorem negates_scope (before : List Token) :
    (scope before).negates = true ↔ NegatedAfter before := by
  have hgroups : true ∈ (scope before).groups ↔ ∃ depth, OpenAt before depth true := by
    rw [List.mem_iff_getElem?]
    exact exists_congr fun depth => getElem?_groups_scope before depth true
  have hany : (scope before).groups.any id = true ↔ true ∈ (scope before).groups := by
    simp
  rw [Scope.negates, Bool.or_eq_true, waits_scope, hany, hgroups]
  refine or_congr Iff.rfl ⟨?_, ?_⟩
  · rintro ⟨depth, outside, sign, position, inside, heq, hopen, -, hneg⟩
    exact ⟨outside, sign, position, inside, heq, hopen, Bool.or_eq_true _ _ ▸ hneg.symm⟩
  · rintro ⟨outside, sign, position, inside, heq, hopen, hneg⟩
    have hle := hopen.le
    exact ⟨inside.countP (·.kind.isOpenGroup) - inside.countP (·.kind.isCloseGroup),
      outside, sign, position, inside, heq, hopen, by omega, ((Bool.or_eq_true _ _).mpr hneg).symm⟩

instance (before : List Token) : Decidable (NegatedAfter before) :=
  decidable_of_iff _ (negates_scope before)

/-! ## Groups negated twice -/

/-- No group that is negated by its own sign is reached while a negation waits. -/
def SignedOnce (tokens : List Token) : Prop :=
  ∀ before position after, tokens = before ++ ⟨.openGroup true, position⟩ :: after →
    negationWaits before = false

/-- The same for tokens that are reached with a negation waiting or not. -/
def signedOnceFrom : Bool → List Token → Bool
  | _, [] => true
  | waits, t :: after =>
    !(t.kind == .openGroup true && waits) && signedOnceFrom (t.waitsAfter waits) after

theorem signedOnceFrom_openGroup {waits n : Bool} {p : Nat} {after : List Token}
    (h : signedOnceFrom waits (⟨.openGroup n, p⟩ :: after) = true) :
    (n && waits) = false ∧ signedOnceFrom false after = true := by
  rw [signedOnceFrom, Bool.and_eq_true] at h
  refine ⟨?_, h.2⟩
  cases n with
  | true => simpa using h.1
  | false => rfl

theorem negationWaits_eq_foldl (before : List Token) :
    negationWaits before = before.foldl (fun waits t => t.waitsAfter waits) false := by
  induction before using List.reverseRecOn with
  | nil => rfl
  | append_singleton before t ih =>
      rw [negationWaits_append_singleton, List.foldl_append, ih]
      rfl

theorem signedOnceFrom_iff (waits : Bool) (tokens : List Token) :
    signedOnceFrom waits tokens = true ↔
      ∀ before position after, tokens = before ++ ⟨.openGroup true, position⟩ :: after →
        before.foldl (fun waits t => t.waitsAfter waits) waits = false := by
  induction tokens generalizing waits with
  | nil => simp [signedOnceFrom]
  | cons t rest ih =>
      rw [signedOnceFrom, Bool.and_eq_true, ih]
      constructor
      · rintro ⟨hhead, htail⟩ before position after heq
        cases before with
        | nil =>
            obtain ⟨rfl, -⟩ := List.cons_eq_cons.mp heq
            simpa using hhead
        | cons t' before =>
            obtain ⟨rfl, hrest⟩ := List.cons_eq_cons.mp heq
            exact htail before position after hrest
      · intro h
        refine ⟨?_, ?_⟩
        · obtain ⟨kind, position⟩ := t
          by_cases hkind : kind = .openGroup true
          · subst hkind
            simpa using h [] position rest rfl
          · simp [hkind]
        · intro before position after heq
          refine h (t :: before) position after ?_
          rw [heq, List.cons_append]

theorem signedOnce_iff (tokens : List Token) :
    SignedOnce tokens ↔ signedOnceFrom false tokens = true := by
  rw [signedOnceFrom_iff]
  simp only [SignedOnce, negationWaits_eq_foldl]

instance (tokens : List Token) : Decidable (SignedOnce tokens) :=
  decidable_of_iff _ (signedOnce_iff tokens).symm

/-- What holds with a negation waiting holds without. -/
theorem signedOnceFrom_false {waits : Bool} {tokens : List Token}
    (h : signedOnceFrom waits tokens = true) : signedOnceFrom false tokens = true := by
  induction tokens generalizing waits with
  | nil => rfl
  | cons t after ih =>
      rw [signedOnceFrom, Bool.and_eq_true] at h ⊢
      refine ⟨by simp, ?_⟩
      cases hneg : t.kind.isNegation with
      | true => simpa [waitsAfter, hneg] using h.2
      | false => simpa [waitsAfter, hneg] using ih h.2

theorem signedOnceFrom_of_suffix {waits : Bool} {tokens rest : List Token}
    (h : signedOnceFrom waits tokens = true) (hrest : rest <:+ tokens) :
    signedOnceFrom false rest = true := by
  induction tokens generalizing waits with
  | nil =>
      rw [List.suffix_nil.mp hrest]
      rfl
  | cons t after ih =>
      rcases List.suffix_cons_iff.mp hrest with rfl | hrest
      · exact signedOnceFrom_false h
      · rw [signedOnceFrom, Bool.and_eq_true] at h
        exact ih h.2 hrest

end RecordQuery.Token
