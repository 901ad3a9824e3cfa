import RecordQuery.Proofs.Query.Between
import RecordQuery.Proofs.Query.Ranged

/-!
# Ranges as operands

A range of dates is a group of its own, so that a negation before it, a joiner or an operand next to it
take it as a whole, as if it stood in parentheses. A range of numbers is its two comparisons one after
the other, and what stands before it takes the first: it is one operand where nothing stands before it in
its group.
-/

namespace RecordQuery

open Segment

/-! ## Signs -/

/-- Nothing, or a negation. -/
def IsSign (sign : List Char) : Prop := sign = [] ∨ sign = ['-'] ∨ sign = ['!']

/-- What a sign is read as in front of a term. -/
def signKinds (sign : List Char) : List Token.Kind := if sign.isEmpty then [] else [.negation]

section
variable {rules : Rules} {before : Option Char} {sign piece rest : List Char} {kinds : List Token.Kind}

theorem IsSign.isBlank (hsign : IsSign sign) : ∀ c ∈ sign, Text.isBlank c = false := by
  rcases hsign with rfl | rfl | rfl
  · exact List.forall_mem_nil _
  · exact List.forall_mem_singleton.mpr (by decide)
  · exact List.forall_mem_singleton.mpr (by decide)

theorem IsSign.cases (hsign : IsSign sign) : sign = [] ∨ ∃ c, (c = '-' ∨ c = '!') ∧ sign = [c] := by
  rcases hsign with rfl | rfl | rfl
  · exact .inl rfl
  · exact .inr ⟨_, .inl rfl, rfl⟩
  · exact .inr ⟨_, .inr rfl, rfl⟩

theorem reads_sign (hsign : IsSign sign) (hrest : rest.head? ≠ some '(') :
    Reads rules before sign rest (signKinds sign) := by
  rcases hsign.cases with rfl | ⟨c, hc, rfl⟩
  · exact reads_gap (.inl rfl) before rest
  · refine .found (by simp) ?_ (Match.at?_negation hc hrest) rfl rfl rfl
    rcases hc with rfl | rfl <;> decide

theorem reads_signedOpen (hsign : IsSign sign) (hbefore : before.all Match.isBoundary = true) :
    Reads rules before (sign ++ ['(']) rest [.openGroup (!sign.isEmpty)] := by
  rcases hsign.cases with rfl | ⟨c, hc, rfl⟩
  · exact reads_openGroup hbefore false rest
  · refine .found (by simp) ?_ (Match.at?_negatedGroup hc hbefore rest) rfl rfl rfl
    rcases hc with rfl | rfl <;> decide

/-- A sign in front of what is read wherever it stands negates the first token of it. -/
theorem stands_signed (hsign : IsSign sign) (hne : piece ≠ []) (hhead : piece.head? ≠ some '(')
    (hreads : ∀ before rest, Match.StartsWithStop rest → Reads rules before piece rest kinds) :
    Stands rules (sign ++ piece) (signKinds sign ++ kinds) := by
  intro before rest _ hrest
  refine .append (reads_sign hsign ?_) (hreads _ _ hrest)
  rwa [List.head?_append_of_ne_nil _ hne]

/-- The same as a group. -/
theorem stands_group (hsign : IsSign sign)
    (hreads : ∀ before rest, Match.StartsWithStop rest → Reads rules before piece rest kinds) :
    Stands rules (sign ++ '(' :: (piece ++ [')']))
      (.openGroup (!sign.isEmpty) :: (kinds ++ [.closeGroup])) := by
  intro before rest hbefore _
  have hinside : Reads rules ((sign ++ ['(']).getLast?.or before) piece ([')'] ++ rest) kinds :=
    hreads _ _ (by decide : Match.isStop ')' = true)
  have hopen : Reads rules before (sign ++ ['(']) (piece ++ [')'] ++ rest) [.openGroup (!sign.isEmpty)] :=
    reads_signedOpen hsign hbefore
  have hall := hopen.append (hinside.append (reads_closeGroup _ rest))
  simpa using hall

theorem solid_signed (sign : List Char) (h : Cleanup.Solid (Token.unplaced kinds)) :
    Cleanup.Solid (Token.unplaced (signKinds sign ++ kinds)) := by
  cases sign with
  | nil => exact h
  | cons c sign => exact h.cons rfl rfl

theorem solid_enclosed (n : Bool) (h : Cleanup.Solid (Token.unplaced kinds)) :
    Cleanup.Solid (Token.unplaced (.openGroup n :: (kinds ++ [.closeGroup]))) := by
  have hgroup : Token.unplaced (.openGroup n :: (kinds ++ [.closeGroup])) =
      ⟨.openGroup n, 0⟩ :: (Token.unplaced kinds ++ [⟨.closeGroup, 0⟩]) := by simp [Token.unplaced]
  rw [hgroup]
  exact (h.snoc rfl).cons rfl rfl

end

/-! ## Ranges -/

namespace Literal

variable {key : String} {low high : Literal}

def isPeriod : Literal → Bool
  | period _ => true
  | number _ => false

theorem solid_bounds (key : String) (hkind : low.SameKind high) :
    Cleanup.Solid (Token.unplaced (bounds key low high)) := by
  cases low with
  | number x =>
      cases high with
      | number y => exact (Cleanup.solid_term _ 0).cons rfl rfl
      | period q => cases hkind
  | period p =>
      cases high with
      | number y => cases hkind
      | period q => exact (Cleanup.solid_term _ 0).cons rfl rfl

theorem solid_rangeKinds (key : String) (hkind : low.SameKind high) :
    Cleanup.Solid (Token.unplaced (rangeKinds key low high)) := by
  cases low with
  | number x => exact solid_bounds key hkind
  | period p => exact solid_enclosed false (solid_bounds key hkind)

end Literal

/-- No operand has been read in the group that is open, and no negation waits. -/
def Builder.AtStart (b : Builder) : Prop := b.current.tree = none ∧ b.negate = false

namespace Builder

/-- A range of dates goes into the tree as it does in parentheses. -/
theorem foldl_dateRange (b : Builder) (key : String) {low high : Literal} (hkind : low.SameKind high)
    (hdate : low.isPeriod = true) (sign : List Char) :
    (Token.unplaced (signKinds sign ++ Literal.rangeKinds key low high)).foldl step b =
      (Token.unplaced (.openGroup (!sign.isEmpty) ::
        (Literal.rangeKinds key low high ++ [.closeGroup]))).foldl step b := by
  obtain ⟨current, outer, negate⟩ := b
  cases low with
  | number x => cases hdate
  | period p =>
      cases high with
      | number y => cases hkind
      | period q =>
          cases sign with
          | nil => cases negate <;> rfl
          -- A negation that waits already is waiting for the inner group.
          | cons c sign => cases negate <;> rfl

/-- So does a range of numbers that is the first operand of its group. -/
theorem foldl_numberRange {b : Builder} (hb : b.AtStart) (key : String) {low high : Literal}
    (hkind : low.SameKind high) (hnumber : low.isPeriod = false) :
    (Token.unplaced (Literal.rangeKinds key low high)).foldl step b =
      (Token.unplaced (.openGroup false ::
        (Literal.rangeKinds key low high ++ [.closeGroup]))).foldl step b := by
  obtain ⟨⟨tree, waiting, negated⟩, outer, negate⟩ := b
  obtain ⟨rfl, rfl⟩ : tree = none ∧ negate = false := hb
  cases low with
  | period p => cases hnumber
  | number x =>
      cases high with
      | period q => cases hkind
      | number y => rfl

/-- A sign in front of what follows leaves a negation waiting. -/
theorem foldl_signKinds (sign : List Char) (b : Builder) :
    (Token.unplaced (signKinds sign)).foldl step b = { b with negate := b.negate || !sign.isEmpty } := by
  cases sign with
  | nil => simp [signKinds, Token.unplaced]
  | cons c sign => simp [signKinds, Token.unplaced, step]

/-- What has been read after a query. -/
def after (q : String) : Builder := (Parsed.ofQuery {} q).tokens.foldl step {}

theorem unplaced_after (q : String) :
    (Token.unplaced ((Parsed.ofQuery {} q).tokens.map Token.kind)).foldl step {} =
      (after q).unplaced :=
  (unplaced_foldl {} _).symm

theorem AtStart.unplaced {b : Builder} (h : b.AtStart) : b.unplaced.AtStart := by
  obtain ⟨htree, hnegate⟩ := h
  exact ⟨by simp [Builder.unplaced, Frame.unplaced, htree], hnegate⟩

end Builder

/-- What does the same in the middle of a query may take its place. -/
theorem Tree.ofTokens?_congr {front middle middle' back : List Token}
    (h : middle.foldl Builder.step (front.foldl Builder.step {}) =
      middle'.foldl Builder.step (front.foldl Builder.step {})) :
    Tree.ofTokens? (front ++ (middle ++ back)) = Tree.ofTokens? (front ++ (middle' ++ back)) := by
  simp only [Tree.ofTokens?, List.foldl_append, h]

/-! ## Queries -/

/-- A sign and a text without blanks are a normal spelling. -/
theorem normalize_signed {sign piece : String} (hsign : IsSign sign.toList) (hne : piece.toList ≠ [])
    (hpiece : ∀ c ∈ piece.toList, Text.isBlank c = false) :
    Text.normalize (sign ++ piece) = sign ++ piece := by
  refine Text.normalize_of_no_blank (by simp [hne]) ?_
  intro c hc
  rw [String.toList_append] at hc
  exact (List.mem_append.mp hc).elim (hsign.isBlank c) (hpiece c)

section
variable (last : String) {key low high sign first : String} {a b : Literal}
  (hkey : Match.isKey key.toList = true) (ha : Literal.classify low.toList = .valid a)
  (hb : Literal.classify high.toList = .valid b) (hkind : a.SameKind b)
  (hsign : IsSign sign.toList) (hquote : '"' ∉ first.toList) (hslash : '/' ∉ first.toList)

theorem toList_range (key low high : String) :
    (key ++ ":" ++ low ++ ".." ++ high).toList = Match.rangeText key.toList low.toList high.toList := by
  simp [String.toList_append, Match.rangeText]

include hkey ha hb in
theorem isBlank_range :
    ∀ c ∈ (key ++ ":" ++ low ++ ".." ++ high).toList, Text.isBlank c = false := by
  rw [toList_range]
  exact fun c hc => Match.isBlank_of_mem_rangeText hkey (by simp [ha]) (by simp [hb]) hc

include hkey in
theorem isBlank_comparison {literal : String} {l : Literal}
    (hl : Literal.classify literal.toList = .valid l) (c : Comparison) :
    ∀ d ∈ (key ++ c.spelling ++ literal).toList, Text.isBlank d = false := by
  rw [String.toList_append, String.toList_append]
  exact Match.isBlank_compared hkey (by simp [hl])

include hkey ha hb hkind in
theorem reads_range (before : Option Char) (rest : List Char) (hrest : Match.StartsWithStop rest) :
    Reads {} before (key ++ ":" ++ low ++ ".." ++ high).toList rest (Literal.rangeKinds key a b) := by
  rw [toList_range]
  simpa using reads_rangeText before hkey ha hb hkind hrest

include hkey ha hb hkind hsign hquote hslash in
/-- The tree around a range. -/
theorem Tree.ofQuery?_range :
    Tree.ofQuery? (first ++ " " ++ (sign ++ (key ++ ":" ++ low ++ ".." ++ high)) ++ " " ++ last) =
      Tree.ofTokens? (Token.unplaced ((Parsed.ofQuery {} first).tokens.map Token.kind) ++
        (Token.unplaced (signKinds sign.toList ++ Literal.rangeKinds key a b) ++
          Token.unplaced ((Parsed.ofQuery {} last).tokens.map Token.kind))) := by
  have hne : (key ++ ":" ++ low ++ ".." ++ high).toList ≠ [] := by simp
  have hhead : (key ++ ":" ++ low ++ ".." ++ high).toList.head? ≠ some '(' := by
    rw [toList_range]
    exact Match.head?_ne_of_isKey hkey (by decide) _
  refine Tree.ofQuery?_between hquote hslash (normalize_signed hsign hne (isBlank_range hkey ha hb))
    (by simp) ?_ (solid_signed _ (Literal.solid_rangeKinds key hkind))
  rw [String.toList_append]
  exact stands_signed hsign hne hhead (reads_range hkey ha hb hkind)

include hkey ha hb hkind hsign hquote hslash in
/-- The tree around a range in parentheses. -/
theorem Tree.ofQuery?_rangeGroup :
    Tree.ofQuery? (first ++ " " ++ (sign ++ ("(" ++ (key ++ ":" ++ low ++ ".." ++ high) ++ ")")) ++
        " " ++ last) =
      Tree.ofTokens? (Token.unplaced ((Parsed.ofQuery {} first).tokens.map Token.kind) ++
        (Token.unplaced (.openGroup (!sign.toList.isEmpty) ::
          (Literal.rangeKinds key a b ++ [.closeGroup])) ++
          Token.unplaced ((Parsed.ofQuery {} last).tokens.map Token.kind))) := by
  have htext : ("(" ++ (key ++ ":" ++ low ++ ".." ++ high) ++ ")").toList =
      '(' :: ((key ++ ":" ++ low ++ ".." ++ high).toList ++ [')']) := by
    simp [String.toList_append]
  have hblank : ∀ c ∈ ("(" ++ (key ++ ":" ++ low ++ ".." ++ high) ++ ")").toList,
      Text.isBlank c = false := by
    intro c hc
    rw [htext] at hc
    rcases List.mem_cons.mp hc with rfl | hc
    · decide
    · rcases List.mem_append.mp hc with hc | hc
      · exact isBlank_range hkey ha hb c hc
      · obtain rfl := List.mem_singleton.mp hc
        decide
  refine Tree.ofQuery?_between hquote hslash (normalize_signed hsign (by simp [htext]) hblank)
    (by simp) ?_ (solid_enclosed _ (Literal.solid_rangeKinds key hkind))
  rw [String.toList_append, htext]
  exact stands_group hsign (reads_range hkey ha hb hkind)

include hkey ha hb hkind hsign hquote hslash in
/-- The tree around the comparisons with the two ends of a range. -/
theorem Tree.ofQuery?_bounds :
    Tree.ofQuery? (first ++ " " ++ (sign ++ (key ++ ">=" ++ low ++ " " ++ key ++ "<=" ++ high)) ++
        " " ++ last) =
      Tree.ofTokens? (Token.unplaced ((Parsed.ofQuery {} first).tokens.map Token.kind) ++
        (Token.unplaced (signKinds sign.toList ++ Literal.bounds key a b) ++
          Token.unplaced ((Parsed.ofQuery {} last).tokens.map Token.kind))) := by
  have htext : (key ++ ">=" ++ low ++ " " ++ key ++ "<=" ++ high).toList =
      (key.toList ++ Comparison.atLeast.spelling.toList ++ low.toList) ++
        ([' '] ++ (key.toList ++ Comparison.atMost.spelling.toList ++ high.toList)) := by
    simp [String.toList_append, Comparison.spelling]
  have hne : (key ++ ">=" ++ low ++ " " ++ key ++ "<=" ++ high).toList ≠ [] := by simp
  have hhead : (key ++ ">=" ++ low ++ " " ++ key ++ "<=" ++ high).toList.head? ≠ some '(' := by
    rw [htext, List.append_assoc, List.append_assoc]
    exact Match.head?_ne_of_isKey hkey (by decide) _
  have hreads : ∀ before rest, Match.StartsWithStop rest →
      Reads {} before (key ++ ">=" ++ low ++ " " ++ key ++ "<=" ++ high).toList rest
        (Literal.bounds key a b) := by
    intro before rest hrest
    have hblank : Match.StartsWithStop
        ([' '] ++ (key.toList ++ Comparison.atMost.spelling.toList ++ high.toList) ++ rest) :=
      (by decide : Match.isStop ' ' = true)
    have hlow := reads_compared before .atLeast hkey ha hblank
    have hhigh := reads_compared (some ' ') .atMost hkey hb hrest
    rw [String.ofList_toList] at hlow hhigh
    rw [htext]
    exact hlow.append ((Reads.blank (by decide) _).append hhigh)
  refine Tree.ofQuery?_between hquote hslash ?_ (by simp) ?_
    (solid_signed _ (Literal.solid_bounds key hkind))
  -- Unlike a range, the comparisons are two words; the sign belongs to the first.
  · have hwords : sign ++ (key ++ ">=" ++ low ++ " " ++ key ++ "<=" ++ high) =
        (sign ++ (key ++ ">=" ++ low)) ++ " " ++ (key ++ "<=" ++ high) := by
      simp [String.append_assoc]
    rw [hwords]
    refine Text.normalize_of_two (by simp) (by simp) ?_ ?_
    · intro c hc
      rw [String.toList_append] at hc
      rcases List.mem_append.mp hc with hc | hc
      · exact hsign.isBlank c hc
      · exact isBlank_comparison hkey ha .atLeast c hc
    · exact isBlank_comparison hkey hb .atMost
  · rw [String.toList_append]
    exact stands_signed hsign hne hhead hreads

include hkey ha hb hkind hsign hquote hslash in
/-- A range of dates has the tree that it has in parentheses. -/
theorem Tree.ofQuery?_dateRange (hdate : a.isPeriod = true) :
    Tree.ofQuery? (first ++ " " ++ (sign ++ (key ++ ":" ++ low ++ ".." ++ high)) ++ " " ++ last) =
      Tree.ofQuery? (first ++ " " ++ (sign ++ ("(" ++ (key ++ ":" ++ low ++ ".." ++ high) ++ ")")) ++
        " " ++ last) := by
  rw [Tree.ofQuery?_range last hkey ha hb hkind hsign hquote hslash,
    Tree.ofQuery?_rangeGroup last hkey ha hb hkind hsign hquote hslash]
  exact Tree.ofTokens?_congr (Builder.foldl_dateRange _ key hkind hdate _)

include hkey ha hb hkind hsign hquote hslash in
/-- A range of numbers has the tree of its two comparisons. -/
theorem Tree.ofQuery?_numberRange (hnumber : a.isPeriod = false) :
    Tree.ofQuery? (first ++ " " ++ (sign ++ (key ++ ":" ++ low ++ ".." ++ high)) ++ " " ++ last) =
      Tree.ofQuery? (first ++ " " ++ (sign ++ (key ++ ">=" ++ low ++ " " ++ key ++ "<=" ++ high)) ++
        " " ++ last) := by
  have hkinds : Literal.rangeKinds key a b = Literal.bounds key a b := by
    cases a with
    | number x => rfl
    | period p => cases hnumber
  rw [Tree.ofQuery?_range last hkey ha hb hkind hsign hquote hslash,
    Tree.ofQuery?_bounds last hkey ha hb hkind hsign hquote hslash, hkinds]

include hkey ha hb hkind hquote hslash in
/-- As the first operand of its group, it has the tree that it has in parentheses. -/
theorem Tree.ofQuery?_numberRange_of_atStart (hnumber : a.isPeriod = false)
    (hstart : (Builder.after first).AtStart) :
    Tree.ofQuery? (first ++ " " ++ ("" ++ (key ++ ":" ++ low ++ ".." ++ high)) ++ " " ++ last) =
      Tree.ofQuery? (first ++ " " ++ ("" ++ ("(" ++ (key ++ ":" ++ low ++ ".." ++ high) ++ ")")) ++
        " " ++ last) := by
  have hafter := hstart.unplaced
  rw [← Builder.unplaced_after] at hafter
  rw [Tree.ofQuery?_range last hkey ha hb hkind (.inl rfl) hquote hslash,
    Tree.ofQuery?_rangeGroup last hkey ha hb hkind (.inl rfl) hquote hslash]
  exact Tree.ofTokens?_congr (Builder.foldl_numberRange hafter key hkind hnumber)

end

end RecordQuery
