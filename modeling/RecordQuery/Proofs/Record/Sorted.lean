import RecordQuery.Proofs.Record.Order

/-!
# Sorted records

A stable sort keeps what it sorts, puts it in order and leaves what compares equal as it was, and there is
only one list like that. So sorting by one comparison and, where that tells nothing apart, by another is
sorting by the other first, and records may be sorted key by key, from the last key to the first.
-/

namespace RecordQuery

/-! ## Stable sorts -/

section

variable {α : Type} (cmp : α → α → Ordering)

/-- The list in order; what compares equal stays in the order it had. -/
def sortBy (l : List α) : List α := l.mergeSort fun a b => cmp a b != .gt

/-- What of the list compares equal to `a`. -/
def classOf (a : α) (l : List α) : List α := l.filter (cmp a · == .eq)

theorem perm_sortBy (l : List α) : (sortBy cmp l).Perm l := List.mergeSort_perm l _

variable {cmp} {cmp' : α → α → Ordering}

theorem map_sortBy {β : Type} {cmp' : β → β → Ordering} {f : α → β}
    (h : ∀ a b, cmp a b = cmp' (f a) (f b)) (l : List α) :
    (sortBy cmp l).map f = sortBy cmp' (l.map f) := by
  apply List.map_mergeSort
  intro a _ b _
  rw [h]

theorem map_classOf {β : Type} {cmp' : β → β → Ordering} {f : α → β}
    (h : ∀ a b, cmp a b = cmp' (f a) (f b)) (a : α) (l : List α) :
    (classOf cmp a l).map f = classOf cmp' (f a) (l.map f) := by
  rw [classOf, classOf, List.filter_map]
  simp only [Function.comp_def, h]

theorem classOf_cons (a b : α) (l : List α) :
    classOf cmp a (b :: l) = if cmp a b = .eq then b :: classOf cmp a l else classOf cmp a l := by
  rw [classOf, List.filter_cons]
  cases cmp a b <;> rfl

/-- What neither of two comparisons tells apart. -/
theorem classOf_compareLex (a : α) (l : List α) :
    classOf (compareLex cmp cmp') a l = classOf cmp a (classOf cmp' a l) := by
  rw [classOf, classOf, classOf, List.filter_filter]
  apply List.filter_congr
  intro b _
  rw [Bool.eq_iff_iff]
  simp [compareLex_eq_eq]

theorem classOf_comm (a : α) (l : List α) :
    classOf cmp a (classOf cmp' a l) = classOf cmp' a (classOf cmp a l) := by
  rw [classOf, classOf, classOf, classOf, List.filter_filter, List.filter_filter]
  simp only [Bool.and_comm]

section
variable [Std.TransCmp cmp]

theorem classOf_cons_self (a : α) (l : List α) : classOf cmp a (a :: l) = a :: classOf cmp a l := by
  rw [classOf_cons, if_pos Std.ReflCmp.compare_self]

theorem mem_classOf_self {a : α} {l : List α} : a ∈ classOf cmp a l ↔ a ∈ l := by
  have hself : cmp a a = .eq := Std.ReflCmp.compare_self
  simp [classOf, hself]

theorem ne_gt_trans (a b c : α) (hab : (cmp a b != .gt) = true) (hbc : (cmp b c != .gt) = true) :
    (cmp a c != .gt) = true := by
  simp only [bne_iff_ne, ne_eq, ← Ordering.isLE_iff_ne_gt] at hab hbc ⊢
  exact Std.TransCmp.isLE_trans hab hbc

theorem ne_gt_total (a b : α) : (cmp a b != .gt || cmp b a != .gt) = true := by
  have hswap : cmp b a = (cmp a b).swap := Std.OrientedCmp.eq_swap
  rw [hswap]
  cases cmp a b <;> rfl

theorem pairwise_sortBy (l : List α) : (sortBy cmp l).Pairwise (cmp · · ≠ .gt) := by
  have hpairwise : (sortBy cmp l).Pairwise fun a b => (cmp a b != .gt) = true :=
    List.pairwise_mergeSort ne_gt_trans ne_gt_total l
  simpa using hpairwise

/-- What compares equal is left as it was. -/
theorem classOf_sortBy (a : α) (l : List α) : classOf cmp a (sortBy cmp l) = classOf cmp a l := by
  have hequal : (classOf cmp a l).Pairwise fun b c => (cmp b c != .gt) = true := by
    apply List.pairwise_of_forall_mem_list
    intro b hb c hc
    have hab : cmp a b = .eq := by simpa using (List.mem_filter.mp hb).2
    have hac : cmp a c = .eq := by simpa using (List.mem_filter.mp hc).2
    rw [← Std.TransCmp.congr_left hab, hac]
    rfl
  have hsublist : (classOf cmp a l).Sublist (sortBy cmp l) :=
    List.sublist_mergeSort ne_gt_trans ne_gt_total hequal List.filter_sublist
  have hclass : (classOf cmp a (classOf cmp a l)).Sublist (classOf cmp a (sortBy cmp l)) :=
    hsublist.filter _
  have htwice : classOf cmp a (classOf cmp a l) = classOf cmp a l := by
    simp [classOf, List.filter_filter]
  rw [htwice] at hclass
  exact (hclass.eq_of_length ((perm_sortBy cmp l).filter _).length_eq.symm).symm

/-- The first of a list in order comes before all of it. -/
theorem ne_gt_of_mem {a b : α} {l : List α} (h : (a :: l).Pairwise (cmp · · ≠ .gt))
    (hb : b ∈ a :: l) : cmp a b ≠ .gt := by
  rcases List.mem_cons.mp hb with rfl | hb
  · have hself : cmp b b = .eq := Std.ReflCmp.compare_self
    rw [hself]
    exact Ordering.noConfusion
  · exact (List.pairwise_cons.mp h).1 b hb

theorem mem_iff_of_classOf {first second : List α}
    (h : ∀ a, classOf cmp a first = classOf cmp a second) (a : α) : a ∈ first ↔ a ∈ second := by
  have hfirst : a ∈ classOf cmp a first ↔ a ∈ first := mem_classOf_self
  rw [← hfirst, h a, mem_classOf_self]

/-- Two lists in order that agree on what compares equal are the same. -/
theorem eq_of_classOf {first second : List α} (hfirst : first.Pairwise (cmp · · ≠ .gt))
    (hsecond : second.Pairwise (cmp · · ≠ .gt))
    (h : ∀ a, classOf cmp a first = classOf cmp a second) : first = second := by
  have hmem := mem_iff_of_classOf h
  induction first generalizing second with
  | nil =>
      cases second with
      | nil => rfl
      | cons b second => exact absurd ((hmem b).mpr (List.mem_cons_self ..)) List.not_mem_nil
  | cons a first ih =>
      cases second with
      | nil => exact absurd ((hmem a).mp (List.mem_cons_self ..)) List.not_mem_nil
      | cons b second =>
          -- Each head comes before the other one, so the two are the first of one class.
          have hab := ne_gt_of_mem hfirst ((hmem b).mpr (List.mem_cons_self ..))
          have hba := ne_gt_of_mem hsecond ((hmem a).mp (List.mem_cons_self ..))
          have hequal : cmp a b = .eq := by
            have hswap : cmp b a = (cmp a b).swap := Std.OrientedCmp.eq_swap
            rw [hswap] at hba
            cases hcmp : cmp a b with
            | eq => rfl
            | lt => simp [hcmp] at hba
            | gt => exact absurd hcmp hab
          have hclass := h a
          rw [classOf_cons_self, classOf_cons, if_pos hequal] at hclass
          obtain rfl := (List.cons_eq_cons.mp hclass).1
          have htail : ∀ c, classOf cmp c first = classOf cmp c second := by
            intro c
            have hc := h c
            rw [classOf_cons, classOf_cons] at hc
            split at hc
            · exact (List.cons_eq_cons.mp hc).2
            · exact hc
          rw [ih (List.pairwise_cons.mp hfirst).2 (List.pairwise_cons.mp hsecond).2 htail
            (mem_iff_of_classOf htail)]

/-- Where `first` comes before `second` in a sorted list and the comparison does not tell them apart, it
did so before the sort. -/
theorem sublist_of_sublist_sortBy {a b : α} {l : List α} (h : [a, b].Sublist (sortBy cmp l))
    (hab : cmp a b = .eq) : [a, b].Sublist l := by
  have hclass : (classOf cmp a [a, b]).Sublist (classOf cmp a (sortBy cmp l)) := h.filter _
  rw [classOf_cons_self, classOf_cons, if_pos hab, classOf_sortBy] at hclass
  exact hclass.trans List.filter_sublist

variable [Std.TransCmp cmp']

/-- Sorting by two comparisons is sorting by the second and then by the first. -/
theorem sortBy_compareLex (l : List α) :
    sortBy (compareLex cmp cmp') l = sortBy cmp (sortBy cmp' l) := by
  have hclasses : ∀ a, classOf (compareLex cmp cmp') a (sortBy cmp (sortBy cmp' l)) =
      classOf (compareLex cmp cmp') a l := by
    intro a
    calc classOf (compareLex cmp cmp') a (sortBy cmp (sortBy cmp' l))
        = classOf cmp' a (classOf cmp a (sortBy cmp (sortBy cmp' l))) := by
          rw [classOf_compareLex, classOf_comm]
      _ = classOf cmp' a (classOf cmp a (sortBy cmp' l)) := by rw [classOf_sortBy]
      _ = classOf cmp a (classOf cmp' a (sortBy cmp' l)) := classOf_comm ..
      _ = classOf (compareLex cmp cmp') a l := by rw [classOf_sortBy, classOf_compareLex]
  have hordered : (sortBy cmp (sortBy cmp' l)).Pairwise (compareLex cmp cmp' · · ≠ .gt) := by
    rw [List.pairwise_iff_forall_sublist]
    intro a b hsublist
    have hab := List.pairwise_iff_forall_sublist.mp (pairwise_sortBy _) hsublist
    rw [compareLex]
    cases hcmp : cmp a b with
    | lt => exact Ordering.noConfusion
    | gt => exact absurd hcmp hab
    | eq =>
        have hbefore := sublist_of_sublist_sortBy hsublist hcmp
        exact List.pairwise_iff_forall_sublist.mp (pairwise_sortBy l) hbefore
  refine eq_of_classOf (pairwise_sortBy l) hordered ?_
  intro a
  rw [classOf_sortBy, hclasses]

end

end

/-! ## Sorted records -/

namespace SortKey

/-- The record has nothing under the key to sort by: no field, or null in it. -/
def Misses (k : SortKey) (record : Json) : Prop :=
  ∀ v ∈ Record.field? record k.field, v.isNull = true

theorem value?_eq_none_iff (k : SortKey) (record : Json) : k.value? record = none ↔ k.Misses record := by
  simp [value?, Misses, Option.filter_eq_none_iff]

/-- A record that misses the first key is followed only by such records. -/
theorem Misses.of_ne_gt {k : SortKey} {keys : List SortKey} {a b : Json}
    (hab : compareAll (k :: keys) a b ≠ .gt) (ha : k.Misses a) : k.Misses b := by
  rw [← value?_eq_none_iff] at ha ⊢
  cases hb : k.value? b with
  | none => rfl
  | some v =>
      have hgt : k.compareRecords a b = .gt := by simp only [compareRecords, ha, hb]
      rw [compareAll_cons, compareLex, hgt] at hab
      exact absurd rfl hab

theorem sortRecords_nil (records : List Json) : sortRecords [] records = records := by
  apply List.mergeSort_of_pairwise
  exact List.pairwise_of_forall fun _ _ => rfl

variable {keys : List SortKey} {records : List Json}

/-- Records that stand in a list may be sorted as members of it. -/
theorem map_val_sortBy (keys : List SortKey) (l : List {r // r ∈ records}) :
    (sortBy (fun a b : {r // r ∈ records} => compareAll keys a.1 b.1) l).map Subtype.val =
      sortRecords keys (l.map Subtype.val) := by
  apply map_sortBy
  intro a b
  rfl

/-- One key after the other, from the last to the first. -/
theorem sortRecords_eq_foldr (h : ∀ k ∈ keys, k.Uniform records) (l : List {r // r ∈ records}) :
    sortRecords keys (l.map Subtype.val) =
      keys.foldr (fun k sorted => sortRecords [k] sorted) (l.map Subtype.val) := by
  induction keys with
  | nil => exact sortRecords_nil _
  | cons k keys ih =>
      obtain ⟨hk, hkeys⟩ := List.forall_mem_cons.mp h
      have hfirst := transCmp_compareRecords hk
      have hrest := transCmp_compareAll hkeys
      have hone : ∀ a b : {r // r ∈ records},
          k.compareRecords a.1 b.1 = compareAll [k] a.1 b.1 := by
        intro a b
        exact (Ordering.then_eq ..).symm
      calc sortRecords (k :: keys) (l.map Subtype.val)
          = (sortBy (compareLex (fun a b : {r // r ∈ records} => k.compareRecords a.1 b.1)
              fun a b : {r // r ∈ records} => compareAll keys a.1 b.1) l).map Subtype.val :=
            (map_val_sortBy (k :: keys) l).symm
        _ = (sortBy (fun a b : {r // r ∈ records} => k.compareRecords a.1 b.1)
              (sortBy (fun a b : {r // r ∈ records} => compareAll keys a.1 b.1) l)).map
                Subtype.val := by rw [sortBy_compareLex]
        _ = sortRecords [k] ((sortBy (fun a b : {r // r ∈ records} => compareAll keys a.1 b.1)
              l).map Subtype.val) := map_sortBy hone _
        _ = sortRecords [k] (keys.foldr (fun k sorted => sortRecords [k] sorted)
              (l.map Subtype.val)) := by rw [map_val_sortBy, ih hkeys]

theorem pairwise_sortRecords (h : ∀ k ∈ keys, k.Uniform records) :
    (sortRecords keys records).Pairwise (compareAll keys · · ≠ .gt) := by
  have htrans := transCmp_compareAll h
  have hsorted := map_val_sortBy keys records.attach
  rw [List.attach_map_subtype_val] at hsorted
  rw [← hsorted, List.pairwise_map]
  exact pairwise_sortBy _

theorem filter_sortRecords (h : ∀ k ∈ keys, k.Uniform records) {r : Json} (hr : r ∈ records) :
    (sortRecords keys records).filter (fun s => keys.all fun k => k.compareRecords r s == .eq) =
      records.filter fun s => keys.all fun k => k.compareRecords r s == .eq := by
  have hequal : (fun s => keys.all fun k => k.compareRecords r s == .eq) =
      (compareAll keys r · == .eq) := by
    funext s
    rw [Bool.eq_iff_iff]
    simp [compareAll_eq_eq]
  have htrans := transCmp_compareAll h
  let order : {r // r ∈ records} → {r // r ∈ records} → Ordering :=
    fun a b => compareAll keys a.1 b.1
  have hclass : classOf order ⟨r, hr⟩ (sortBy order records.attach) =
      classOf order ⟨r, hr⟩ records.attach := classOf_sortBy ..
  have hval : ∀ a b, order a b = compareAll keys a.1 b.1 := fun _ _ => rfl
  have hmap := congrArg (List.map Subtype.val) hclass
  rw [map_classOf hval, map_classOf hval, map_val_sortBy, List.attach_map_subtype_val] at hmap
  rw [hequal]
  exact hmap

/-- **Sorted records.** Where the values under each key are all numbers or none is, sorting keeps every
record, puts the records in order under the keys, leaves records in place that no key tells apart, and
puts those that miss the first key last, whatever its direction. It is a stable sort by the last key, then
by the one before it, and so on up to the first. -/
theorem sortRecords_stable (h : ∀ k ∈ keys, k.Uniform records) :
    (sortRecords keys records).Perm records ∧
    (sortRecords keys records).Pairwise (compareAll keys · · ≠ .gt) ∧
    (∀ r ∈ records,
      (sortRecords keys records).filter (fun s => keys.all fun k => k.compareRecords r s == .eq) =
        records.filter fun s => keys.all fun k => k.compareRecords r s == .eq) ∧
    (∀ k ∈ keys.head?, (sortRecords keys records).Pairwise fun a b => k.Misses a → k.Misses b) ∧
    sortRecords keys records = keys.foldr (fun k sorted => sortRecords [k] sorted) records := by
  have hordered := pairwise_sortRecords h
  refine ⟨perm_sortBy _ records, hordered, fun r hr => filter_sortRecords h hr, ?_, ?_⟩
  · intro k hk
    cases keys with
    | nil => cases hk
    | cons k' keys =>
        obtain rfl : k' = k := by simpa using hk
        exact hordered.imp Misses.of_ne_gt
  · have hstages := sortRecords_eq_foldr h records.attach
    rwa [List.attach_map_subtype_val] at hstages

/-- Falling prices, a number and two texts that spell one, and no price last; then rising names. -/
theorem sortRecords_stable_prices :
    let keys : List SortKey := [⟨"price", .descending⟩, ⟨"name", .ascending⟩]
    let a : Json := .object [("name", .string "a"), ("price", .string "9.0")]
    let b : Json := .object [("name", .string "b"), ("price", .number (.integer 9))]
    let c : Json := .object [("name", .string "c"), ("price", .string "10")]
    let d : Json := .object [("name", .string "d"), ("price", .null)]
    (∀ k ∈ keys, k.Uniform [d, b, a, c]) ∧ sortRecords keys [d, b, a, c] = [c, a, b, d] ∧
      sortRecords [⟨"price", .descending⟩] (sortRecords [⟨"name", .ascending⟩] [d, b, a, c]) =
        [c, a, b, d] := by
  intro keys a b c d
  have hkeys : ∀ k ∈ keys, k.Uniform [d, b, a, c] := by decide +kernel
  have hdb : compareAll keys d b = .gt := by decide +kernel
  have hac : compareAll keys a c = .gt := by decide +kernel
  have hbc : compareAll keys b c = .gt := by decide +kernel
  have hba : compareAll keys b a = .gt := by decide +kernel
  have hsorted : sortRecords keys [d, b, a, c] = [c, a, b, d] := by
    simp [sortRecords, List.mergeSort, hdb, hac, hbc, hba]
  refine ⟨hkeys, hsorted, ?_⟩
  rw [← hsorted]
  exact (sortRecords_stable hkeys).2.2.2.2.symm

end SortKey

end RecordQuery
