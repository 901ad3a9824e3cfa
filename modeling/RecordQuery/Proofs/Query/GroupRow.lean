import RecordQuery.Proofs.Query.Barrier
import RecordQuery.Proofs.Query.GroupTree

/-!
# Groups in a row

Queries in groups with ORs between them. Cleanup goes on in each group as in its query alone; a group
that it empties leaves its ORs behind, and of several ORs in a row it leaves one. The tree of what is
left joins those of the queries by OR.
-/

namespace RecordQuery

namespace Cleanup

variable {start finish joiner : Token}

/-! ## One group among other tokens -/

section
variable {tokens group : List Token}

theorem GroupOf.exists_cons (h : GroupOf start finish tokens group) :
    ∃ inside, group = start :: inside := by
  obtain ⟨lead, inside, trail, trail', -, -, -, -, rfl⟩ := h
  exact ⟨_, rfl⟩

theorem GroupOf.getLast?_eq (h : GroupOf start finish tokens group) : group.getLast? = some finish := by
  obtain ⟨lead, inside, trail, trail', -, -, -, -, rfl⟩ := h
  rw [← List.append_assoc, List.getLast?_cons]
  simp

/-- A pass goes over a group that is not empty as if it stood alone. -/
theorem GroupOf.passFrom_append (hstart : start.kind.isOpenGroup = true)
    (hfinish : finish.kind.isCloseGroup = true) (h : GroupOf start finish tokens group)
    (hbalanced : Token.Balanced tokens) (hne : group ≠ [start, finish]) (kept rest : List Token) :
    passFrom kept (group ++ rest) = passFrom ((Cleanup.pass group).reverse ++ kept) rest := by
  obtain ⟨inside, rfl⟩ := h.exists_cons
  have hempty := h.startsEmpty_eq_false hbalanced hne []
  rw [List.append_nil] at hempty
  have hloose : ∀ kept, isLoose kept start inside = false := by
    simp [isLoose, Token.Kind.isJoiner_of_isOpenGroup hstart]
  have hstay : ∀ t ∈ (start :: kept).head?, t.kind.isNegation = false := by
    simpa using Token.Kind.isNegation_of_isOpenGroup hstart
  have hstay' : ∀ t ∈ [start].head?, t.kind.isNegation = false := by
    simpa using Token.Kind.isNegation_of_isOpenGroup hstart
  obtain ⟨kept', hover, halone⟩ :=
    exists_passFrom_over [start] hstay hstay' rfl [] inside
  rw [List.nil_append] at hover halone
  have hparts : Parts (start :: inside) rest := by
    intro t ht hwaits
    obtain rfl : finish = t := Option.some.inj (h.getLast?_eq.symm.trans ht)
    rw [Token.Kind.isOpenGroup_of_isCloseGroup hfinish, Token.Kind.isJoiner_of_isCloseGroup hfinish] at hwaits
    cases hwaits
  rw [Cleanup.passFrom_append kept hparts, passFrom_kept hempty (hloose kept), hover, Cleanup.pass,
    passFrom_kept hempty (hloose []), halone]
  simp

theorem no_term_pass (h : ∀ t ∈ tokens, t.kind.isTerm = false) :
    ∀ t ∈ pass tokens, t.kind.isTerm = false :=
  fun t ht => h t ((passFrom_sublist [] tokens).subset ht)

theorem blocksJoiner_of_finish {kept : List Token} (hfinish : finish.kind.isCloseGroup = true)
    (h : kept.head? = some finish) : blocksJoiner kept = false := by
  cases kept with
  | nil => rfl
  | cons t kept =>
      obtain rfl : t = finish := by simpa using h
      simp [blocksJoiner, Token.Kind.isJoiner_of_isCloseGroup hfinish,
        Token.Kind.isOpenGroup_of_isCloseGroup hfinish]

end

/-! ## Rows -/

/-- The tokens of queries as groups, with joiners among them: between two groups there is one at least.
If `after` is set, the row comes right after a group. A query without terms may have lost its group. -/
inductive Row (start finish joiner : Token) : (after : Bool) → List (List Token) → List Token → Prop
  | nil {after : Bool} : Row start finish joiner after [] []
  | joiner {after : Bool} {queries : List (List Token)} {row : List Token}
      (hrow : Row start finish joiner false queries row) :
      Row start finish joiner after queries (joiner :: row)
  | group {tokens group : List Token} {queries : List (List Token)} {row : List Token}
      (hgroup : GroupOf start finish tokens group) (hbalanced : Token.Balanced tokens)
      (hrow : Row start finish joiner true queries row) :
      Row start finish joiner false (tokens :: queries) (group ++ row)
  | gone {after : Bool} {tokens : List Token} {queries : List (List Token)} {row : List Token}
      (hterm : ∀ t ∈ tokens, t.kind.isTerm = false) (hrow : Row start finish joiner after queries row) :
      Row start finish joiner after (tokens :: queries) row

namespace Row

variable {after : Bool} {queries : List (List Token)} {row : List Token}

theorem head?_isCloseGroup (hstart : start.kind.isOpenGroup = true) (hjoiner : joiner.kind.isJoiner = true)
    (h : Row start finish joiner after queries row) :
    row.head?.any (·.kind.isCloseGroup) = false := by
  induction h with
  | nil => rfl
  | joiner hrow ih => simpa using Token.Kind.isCloseGroup_of_isJoiner hjoiner
  | group hgroup hbalanced hrow ih =>
      obtain ⟨inside, rfl⟩ := hgroup.exists_cons
      simpa using Token.Kind.isCloseGroup_of_isOpenGroup hstart
  | gone hterm hrow ih => exact ih

/-- **A pass over a row.** It leaves a row, of the queries after a pass over each. -/
theorem exists_passFrom (hstart : start.kind.isOpenGroup = true)
    (hfinish : finish.kind.isCloseGroup = true) (hjoiner : joiner.kind.isJoiner = true)
    (h : Row start finish joiner after queries row) (after' : Bool) (hle : after' = true → after = true)
    (kept : List Token) (hwaits : ∀ t ∈ kept.head?, t.kind.isNegation = false)
    (hblocks : after' = true → blocksJoiner kept = false) :
    ∃ row', passFrom kept row = kept.reverse ++ row' ∧
      Row start finish joiner after' (queries.map pass) row' := by
  induction h generalizing after' kept with
  | nil => exact ⟨[], by simp [Cleanup.passFrom], .nil⟩
  | @joiner after queries row hrow ih =>
      have hhead := hrow.head?_isCloseGroup hstart hjoiner
      cases hblock : blocksJoiner kept with
      | true =>
          -- It comes after another joiner, so not right after a group.
          obtain rfl : after' = false := by
            cases after' with
            | false => rfl
            | true => simp [hblock] at hblocks
          rw [passFrom_isLoose (by simp [isLoose, hjoiner, hblock])]
          exact ih false (by simp) kept hwaits (by simp)
      | false =>
          rw [passFrom_kept (startsEmpty_of_isJoiner hjoiner row)
            (by simp only [isLoose, hblock, hhead, Bool.or_self, Bool.and_false])]
          obtain ⟨row', hpass, hrow'⟩ := ih false (by simp) (joiner :: kept)
            (by simpa using Token.Kind.isNegation_of_isJoiner hjoiner) (by simp)
          refine ⟨joiner :: row', ?_, .joiner hrow'⟩
          rw [hpass]
          simp
  | @group tokens group queries row hgroup hbalanced hrow ih =>
      obtain rfl : after' = false := by
        cases after' with
        | false => rfl
        | true => cases hle rfl
      by_cases hempty : group = [start, finish]
      · -- The group is taken out, so its query has no term.
        obtain ⟨row', hpass, hrow'⟩ := ih false (by simp) kept hwaits (by simp)
        have hterm : ∀ t ∈ tokens, t.kind.isTerm = false := by
          intro t ht
          by_contra hterm
          exact hgroup.ne_empty ⟨t, ht, by simpa using hterm⟩ hempty
        have hstarts : startsEmpty start (finish :: row) = true := by simp [startsEmpty, hstart, hfinish]
        have hkept : dropNegation kept = kept := dropNegation_append hwaits []
        refine ⟨row', ?_, .gone (no_term_pass hterm) hrow'⟩
        rw [hempty, List.cons_append, List.singleton_append, passFrom_startsEmpty kept hstarts, hkept, hpass]
      · have hpassed := hgroup.pass hstart hfinish hbalanced hempty
        have hlast : ((pass group).reverse ++ kept).head? = some finish := by
          rw [List.head?_append, List.head?_reverse, hpassed.getLast?_eq, Option.some_or]
        obtain ⟨row', hpass, hrow'⟩ := ih true (fun _ => rfl)
          ((pass group).reverse ++ kept) (by simpa [hlast] using Token.Kind.isNegation_of_isCloseGroup hfinish)
          (fun _ => blocksJoiner_of_finish hfinish hlast)
        refine ⟨pass group ++ row', ?_, .group hpassed ((depth?_passFrom 0 [] tokens).trans hbalanced) hrow'⟩
        rw [hgroup.passFrom_append hstart hfinish hbalanced hempty, hpass]
        simp
  | @gone after tokens queries row hterm hrow ih =>
      obtain ⟨row', hpass, hrow'⟩ := ih after' hle kept hwaits hblocks
      exact ⟨row', hpass, .gone (no_term_pass hterm) hrow'⟩

section
variable (hstart : start.kind.isOpenGroup = true) (hfinish : finish.kind.isCloseGroup = true)
  (hjoiner : joiner.kind.isJoiner = true)

include hstart hfinish hjoiner in
theorem iterate_pass (h : Row start finish joiner false queries row) (n : Nat) :
    Row start finish joiner false (queries.map pass^[n]) (pass^[n] row) := by
  induction n generalizing queries row with
  | zero => simpa using h
  | succ n ih =>
      obtain ⟨row', hpass, hrow'⟩ := h.exists_passFrom hstart hfinish hjoiner false (by simp) []
        (by simp) (by simp)
      have hone : pass row = row' := hpass
      have hnext := ih hrow'
      rw [← hone, List.map_map] at hnext
      exact hnext

include hstart hfinish hjoiner in
/-- **Cleanup of a row.** It leaves a row, of the queries cleaned up each by itself. -/
theorem cleanup (h : Row start finish joiner false queries row) :
    Row start finish joiner false (queries.map RecordQuery.cleanup) (RecordQuery.cleanup row) := by
  -- As many passes as there are tokens in all are enough for the row and for each query.
  have hrow := h.iterate_pass hstart hfinish hjoiner (row.length + queries.flatten.length)
  have hqueries : queries.map RecordQuery.cleanup =
      queries.map pass^[row.length + queries.flatten.length] := by
    refine List.map_congr_left fun tokens htokens => cleanup_eq_iterate ?_
    exact Nat.le_add_left_of_le (List.sublist_flatten_of_mem htokens).length_le
  rw [hqueries, cleanup_eq_iterate (Nat.le_add_right row.length queries.flatten.length)]
  exact hrow

end

end Row

end Cleanup

/-! ## The tree of a row -/

namespace Tree

/-- What is on the left, if anything, and the trees after it, joined by OR from the left. -/
def disjoin : Option Tree → List Tree → Option Tree
  | left, [] => left
  | none, t :: rest => disjoin (some t) rest
  | some left, t :: rest => disjoin (some (.node .or left t false)) rest

/-- The trees joined by OR from the left, none if there are none. -/
def disjunction (trees : List Tree) : Option Tree := disjoin none trees

end Tree

namespace Cleanup.Row

variable {after : Bool} {queries : List (List Token)} {row : List Token} {p q r : Nat}

/-- Reading a row attaches the trees of the queries one after the other, each by an OR. -/
theorem foldl_step (h : Row ⟨.openGroup false, p⟩ ⟨.closeGroup, q⟩ ⟨.joiner .or, r⟩ after queries row)
    {b : Builder} (hb : b.negate = false)
    (hwaiting : after = false → b.current.tree.isSome = true → b.current.waiting = some .or) :
    ∃ waiting, row.foldl Builder.step b = { b with current := { b.current with
      tree := Tree.disjoin b.current.tree (queries.filterMap Tree.ofTokens?), waiting := waiting } } := by
  induction h generalizing b with
  | nil => exact ⟨b.current.waiting, rfl⟩
  | @joiner after queries row hrow ih =>
      obtain ⟨⟨tree, waiting, negated⟩, outer, negate⟩ := b
      obtain rfl : negate = false := hb
      rw [List.foldl_cons]
      cases tree with
      | none => exact ih (b := ⟨⟨none, waiting, negated⟩, outer, false⟩) rfl (by simp)
      | some left =>
          obtain ⟨waiting', hfold⟩ := ih (b := ⟨⟨some left, some .or, negated⟩, outer, false⟩) rfl (by simp)
          exact ⟨waiting', hfold⟩
  | @group tokens group queries row hgroup hbalanced hrow ih =>
      rw [List.foldl_append, Builder.foldl_group hb hgroup hbalanced]
      cases ht : Tree.ofTokens? tokens with
      | none =>
          rw [List.filterMap_cons_none ht]
          exact ih hb (by simp)
      | some t =>
          rw [List.filterMap_cons_some ht]
          obtain ⟨⟨tree, waiting, negated⟩, outer, negate⟩ := b
          obtain rfl : negate = false := hb
          -- What is on the left already has an OR after it: two groups never follow each other.
          cases tree with
          | none =>
              obtain ⟨waiting', hfold⟩ := ih (b := ⟨⟨some t, none, negated⟩, outer, false⟩) rfl (by simp)
              exact ⟨waiting', hfold⟩
          | some left =>
              obtain rfl : waiting = some .or := hwaiting rfl rfl
              obtain ⟨waiting', hfold⟩ :=
                ih (b := ⟨⟨some (.node .or left t false), none, negated⟩, outer, false⟩) rfl (by simp)
              exact ⟨waiting', hfold⟩
  | @gone after tokens queries row hterm hrow ih =>
      rw [List.filterMap_cons_none ((Tree.ofTokens?_eq_none tokens).mpr hterm)]
      exact ih hb hwaiting

/-- **The tree of a row** is the disjunction of the trees of its queries. -/
theorem ofTokens?_eq
    (h : Row ⟨.openGroup false, p⟩ ⟨.closeGroup, q⟩ ⟨.joiner .or, r⟩ false queries row) :
    Tree.ofTokens? row = Tree.disjunction (queries.filterMap Tree.ofTokens?) := by
  obtain ⟨waiting, hfold⟩ := h.foldl_step (b := {}) rfl (by simp)
  rw [Tree.ofTokens?, hfold]
  rfl

end Cleanup.Row

end RecordQuery
