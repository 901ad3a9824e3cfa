import RecordQuery.Record.Sort

/-!
# The order of records

Under any sort keys, a record is equal to itself and two records compare one way as the reverse of
the other way. Transitivity asks for more: numbers compare by size and all else by text, so it holds
among records of which the values under each key are all numbers or none is.
-/

namespace RecordQuery.SortKey

/-! ## Two values -/

theorem compareValues_of_numbers {a b : Json} {x y : Number} (ha : Record.number? a = some x)
    (hb : Record.number? b = some y) : compareValues a b = compare x.sortPlace y.sortPlace := by
  simp only [compareValues, ha, hb]

theorem compareValues_of_texts {a b : Json}
    (h : Record.number? a = none ∨ Record.number? b = none) :
    compareValues a b = compare (sortText a) (sortText b) := by
  unfold compareValues
  split
  · next x y hx hy => simp [hx, hy] at h
  · rfl

theorem compareValues_self (a : Json) : compareValues a a = .eq := by
  cases ha : Record.number? a with
  | none => exact (compareValues_of_texts (.inl ha)).trans Std.ReflCmp.compare_self
  | some x => exact (compareValues_of_numbers ha ha).trans Std.ReflCmp.compare_self

theorem compareValues_swap (a b : Json) : (compareValues a b).swap = compareValues b a := by
  have htexts : Record.number? a = none ∨ Record.number? b = none →
      (compareValues a b).swap = compareValues b a := by
    intro h
    rw [compareValues_of_texts h, compareValues_of_texts h.symm, ← Std.OrientedCmp.eq_swap]
  cases ha : Record.number? a with
  | none => exact htexts (.inl ha)
  | some x =>
      cases hb : Record.number? b with
      | none => exact htexts (.inr hb)
      | some y =>
          rw [compareValues_of_numbers ha hb, compareValues_of_numbers hb ha,
            ← Std.OrientedCmp.eq_swap]

/-- Values that are all numbers, or none of them, are ordered by one rule. -/
theorem compareValues_trans {a b c : Json} {numeric : Bool}
    (ha : (Record.number? a).isSome = numeric) (hb : (Record.number? b).isSome = numeric)
    (hc : (Record.number? c).isSome = numeric) (hab : (compareValues a b).isLE = true)
    (hbc : (compareValues b c).isLE = true) : (compareValues a c).isLE = true := by
  cases numeric with
  | true =>
      obtain ⟨x, hx⟩ := Option.isSome_iff_exists.mp ha
      obtain ⟨y, hy⟩ := Option.isSome_iff_exists.mp hb
      obtain ⟨z, hz⟩ := Option.isSome_iff_exists.mp hc
      rw [compareValues_of_numbers hx hy] at hab
      rw [compareValues_of_numbers hy hz] at hbc
      rw [compareValues_of_numbers hx hz]
      exact Std.TransCmp.isLE_trans hab hbc
  | false =>
      rw [Option.isSome_eq_false_iff, Option.isNone_iff_eq_none] at ha hb
      rw [compareValues_of_texts (.inl ha)] at hab
      rw [compareValues_of_texts (.inl hb)] at hbc
      rw [compareValues_of_texts (.inl ha)]
      exact Std.TransCmp.isLE_trans hab hbc

/-! ## One key -/

theorem compareRecords_self (k : SortKey) (a : Json) : k.compareRecords a a = .eq := by
  obtain ⟨field, direction⟩ := k
  unfold compareRecords
  cases value? ⟨field, direction⟩ a with
  | none => rfl
  | some x => cases direction <;> simp [compareValues_self]

theorem compareRecords_swap (k : SortKey) (a b : Json) :
    (k.compareRecords a b).swap = k.compareRecords b a := by
  obtain ⟨field, direction⟩ := k
  unfold compareRecords
  cases value? ⟨field, direction⟩ a with
  | none => cases value? ⟨field, direction⟩ b <;> rfl
  | some x =>
      cases value? ⟨field, direction⟩ b with
      | none => rfl
      | some y => cases direction <;> simp [compareValues_swap]

/-- The values of the records under the key are all numbers, or none of them is. -/
def Uniform (k : SortKey) (records : List Json) : Prop :=
  ∃ numeric, ∀ r ∈ records, ∀ v ∈ k.value? r, (Record.number? v).isSome = numeric

instance (k : SortKey) (records : List Json) : Decidable (k.Uniform records) :=
  inferInstanceAs (Decidable (∃ _, _))

theorem compareRecords_trans {k : SortKey} {records : List Json} (hk : k.Uniform records)
    {a b c : Json} (ha : a ∈ records) (hb : b ∈ records) (hc : c ∈ records)
    (hab : (k.compareRecords a b).isLE = true) (hbc : (k.compareRecords b c).isLE = true) :
    (k.compareRecords a c).isLE = true := by
  obtain ⟨numeric, hnumeric⟩ := hk
  have hx := hnumeric a ha
  have hy := hnumeric b hb
  have hz := hnumeric c hc
  unfold compareRecords at hab hbc ⊢
  -- A record without a value comes after all others, so only values compare in the end.
  cases hc' : k.value? c with
  | none => cases k.value? a <;> rfl
  | some z =>
      cases hb' : k.value? b with
      | none => simp [hb', hc'] at hbc
      | some y =>
          cases ha' : k.value? a with
          | none => simp [ha', hb'] at hab
          | some x =>
              have hx := hx x ha'
              have hy := hy y hb'
              have hz := hz z hc'
              simp only [ha', hb', hc'] at hab hbc ⊢
              cases hdirection : k.direction with
              | ascending =>
                  simp only [hdirection] at hab hbc ⊢
                  exact compareValues_trans hx hy hz hab hbc
              | descending =>
                  simp only [hdirection, compareValues_swap] at hab hbc ⊢
                  exact compareValues_trans hz hy hx hbc hab

theorem transCmp_compareRecords {k : SortKey} {records : List Json} (h : k.Uniform records) :
    Std.TransCmp fun a b : {r // r ∈ records} => k.compareRecords a.1 b.1 :=
  { eq_swap := (compareRecords_swap k _ _).symm
    isLE_trans := fun {a b c} => compareRecords_trans h a.2 b.2 c.2 }

/-! ## Several keys -/

theorem compareAll_cons (k : SortKey) (keys : List SortKey) :
    compareAll (k :: keys) = compareLex k.compareRecords (compareAll keys) := rfl

theorem compareAll_self (keys : List SortKey) (a : Json) : compareAll keys a a = .eq := by
  induction keys with
  | nil => rfl
  | cons k keys ih => rw [compareAll_cons, compareLex, compareRecords_self, ih]; rfl

theorem compareAll_swap (keys : List SortKey) (a b : Json) :
    (compareAll keys a b).swap = compareAll keys b a := by
  induction keys with
  | nil => rfl
  | cons k keys ih =>
      rw [compareAll_cons, compareLex, Ordering.swap_then, compareRecords_swap, ih]
      rfl

theorem compareAll_eq_eq {keys : List SortKey} {a b : Json} :
    compareAll keys a b = .eq ↔ ∀ k ∈ keys, k.compareRecords a b = .eq := by
  induction keys with
  | nil => simp [compareAll]
  | cons k keys ih => rw [compareAll_cons, compareLex_eq_eq, ih, List.forall_mem_cons]

/-- Among records whose values are of one kind under each key, the order is that of a sort. -/
theorem transCmp_compareAll {keys : List SortKey} {records : List Json}
    (h : ∀ k ∈ keys, k.Uniform records) :
    Std.TransCmp fun a b : {r // r ∈ records} => compareAll keys a.1 b.1 := by
  induction keys with
  | nil => exact { eq_swap := rfl, isLE_trans := fun _ _ => rfl }
  | cons k keys ih =>
      have hfirst := transCmp_compareRecords (h k (List.mem_cons_self ..))
      have hrest := ih fun k' hk' => h k' (List.mem_cons_of_mem _ hk')
      exact inferInstanceAs (Std.TransCmp (compareLex
        (fun a b : {r // r ∈ records} => k.compareRecords a.1 b.1)
        fun a b : {r // r ∈ records} => compareAll keys a.1 b.1))

/-- **The order of records.** It is reflexive and each comparison is the reverse of the other way
round, for all records; and it is transitive among records whose values are of one kind under each
key. -/
theorem compareAll_preorder (keys : List SortKey) :
    (∀ a, compareAll keys a a = .eq) ∧
      (∀ a b, compareAll keys a b = (compareAll keys b a).swap) ∧
      ∀ a b c, (∀ k ∈ keys, k.Uniform [a, b, c]) → (compareAll keys a b).isLE = true →
        (compareAll keys b c).isLE = true → (compareAll keys a c).isLE = true := by
  refine ⟨compareAll_self keys, fun a b => (compareAll_swap keys b a).symm, ?_⟩
  intro a b c hkeys hab hbc
  have htrans := transCmp_compareAll hkeys
  let first : {r // r ∈ [a, b, c]} := ⟨a, by simp⟩
  let second : {r // r ∈ [a, b, c]} := ⟨b, by simp⟩
  let third : {r // r ∈ [a, b, c]} := ⟨c, by simp⟩
  exact htrans.isLE_trans (a := first) (b := second) (c := third) hab hbc

/-- A number, a text that spells one and a missing value under a falling key, then a rising one. -/
theorem compareAll_preorder_numbers :
    let keys : List SortKey := [⟨"n", .descending⟩, ⟨"m", .ascending⟩]
    let first : Json := .object [("m", .string "b"), ("n", .number (.integer 10))]
    let second : Json := .object [("m", .string "c"), ("n", .string " 10.0 ")]
    let third : Json := .object [("m", .string "a")]
    (∀ k ∈ keys, k.Uniform [first, second, third]) ∧ (compareAll keys first second).isLE = true ∧
      (compareAll keys second third).isLE = true ∧ (compareAll keys first third).isLE = true :=
  ⟨by decide +kernel, by decide +kernel, by decide +kernel,
    (compareAll_preorder _).2.2 _ (.object [("m", .string "c"), ("n", .string " 10.0 ")]) _
      (by decide +kernel) (by decide +kernel) (by decide +kernel)⟩

/-- Numbers among other values can stand in a circle: 10 comes before the text `5x` and that before
9, but 10 after 9. -/
theorem compareAll_not_transitive :
    let keys : List SortKey := [⟨"n", .ascending⟩]
    let ten : Json := .object [("n", .number (.integer 10))]
    let text : Json := .object [("n", .string "5x")]
    let nine : Json := .object [("n", .number (.integer 9))]
    compareAll keys ten text = .lt ∧ compareAll keys text nine = .lt ∧
      compareAll keys ten nine = .gt := by
  decide +kernel

end RecordQuery.SortKey
