import Mathlib.Data.List.Basic
import RecordQuery.Proofs.Query.Shape
import RecordQuery.Query.Segment

/-!
# Segmentation

The segments of a query lie end to end from its first character to its last. `Splits` says so of any
list of segments, piece by piece and without the recursion that reads them; `splits_following` says
that the segments of a text satisfy it.
-/

namespace RecordQuery.Segment

variable {rules : Rules} {before : Option Char} {position : Nat}

/-! ## Steps of the reading -/

theorem following_rest (piece rest : List Char) (before : Option Char) (position : Nat) :
    following rules before position piece.length (piece ++ rest) =
      following rules (piece.getLast?.or before) (position + piece.length) 0 rest := by
  induction piece generalizing before position with
  | nil => simp
  | cons c piece ih =>
      rw [List.cons_append, List.length_cons, following, ih, Nat.add_right_comm, Nat.add_assoc]
      simp [List.getLast?_cons]

theorem following_blank {c : Char} (hc : Text.isBlank c = true) (rest : List Char) :
    following rules before position 0 (c :: rest) =
      ⟨position, .blank⟩ :: following rules (some c) (position + 1) 0 rest := by
  simp [following, Content.at, hc, Content.length]

/-- One segment that is not blank is read off the front of the text, with all its characters. -/
theorem following_piece {piece rest : List Char} {content : Content}
    (hcontent : Content.at rules before (piece ++ rest) = content)
    (hlength : piece.length = content.length) (hne : piece ≠ []) :
    following rules before position 0 (piece ++ rest) =
      ⟨position, content⟩ ::
        following rules piece.getLast? (position + piece.length) 0 rest := by
  cases piece with
  | nil => exact absurd rfl hne
  | cons c piece =>
      have htail : content.length - 1 = piece.length := by
        rw [← hlength, List.length_cons, Nat.add_sub_cancel]
      rw [List.cons_append] at hcontent ⊢
      rw [following]
      simp only [hcontent, htail]
      rw [following_rest, List.getLast?_cons, List.length_cons, Nat.add_right_comm, Nat.add_assoc]
      simp

theorem at_of_found {text : List Char} {m : Match} (hstart : text.head?.any Text.isBlank = false)
    (hm : Match.at? rules before text = some m) : Content.at rules before text = .found m := by
  simp [Content.at, hstart, hm]

theorem at_of_skipped {piece rest : List Char} (hne : piece ≠ [])
    (hrun : ∀ c ∈ piece, Text.isBlank c = false) (hend : rest.head?.all Text.isBlank = true)
    (hnone : Match.at? rules before (piece ++ rest) = none) :
    Content.at rules before (piece ++ rest) = .skipped piece := by
  have hstart : (piece ++ rest).head?.any Text.isBlank = false := by
    cases piece with
    | nil => exact absurd rfl hne
    | cons c piece => simpa using hrun c (List.mem_cons_self ..)
  have hpiece : ∀ c ∈ piece, (!Text.isBlank c) = true := by simpa using hrun
  have hstop : rest.head?.all (! !Text.isBlank ·) = true := by simpa using hend
  have htake := (Match.takeWhile_append_of_stop hpiece hstop).1
  rw [Content.at, hstart, hnone, htake]
  rfl

theorem following_found {piece rest : List Char} {m : Match}
    (hstart : piece.head?.any Text.isBlank = false)
    (hm : Match.at? rules before (piece ++ rest) = some m) (hlength : piece.length = m.length)
    (hne : piece ≠ []) :
    following rules before position 0 (piece ++ rest) =
      ⟨position, .found m⟩ ::
        following rules piece.getLast? (position + piece.length) 0 rest := by
  refine following_piece (at_of_found ?_ hm) hlength hne
  rw [List.head?_append_of_ne_nil _ hne]
  exact hstart

/-! ## The pieces of a text -/

/-- The text after `before` falls into the segments, the first of which is at `position`: blanks,
matches and skipped runs, each with the characters that it covers in front of those of the next. -/
inductive Splits (rules : Rules) : Option Char → Nat → List Char → List Segment → Prop
  | nil {before : Option Char} {position : Nat} : Splits rules before position [] []
  | blank {before : Option Char} {position : Nat} {c : Char} {rest : List Char}
      {segments : List Segment} (hc : Text.isBlank c = true)
      (hrest : Splits rules (some c) (position + 1) rest segments) :
      Splits rules before position (c :: rest) (⟨position, .blank⟩ :: segments)
  | found {before : Option Char} {position : Nat} {piece rest : List Char} {m : Match}
      {segments : List Segment} (hne : piece ≠ [])
      (hstart : piece.head?.any Text.isBlank = false) (hlength : piece.length = m.length)
      (hm : Match.at? rules before (piece ++ rest) = some m) (hspells : Match.Spells rules piece m)
      (hrest : Splits rules piece.getLast? (position + piece.length) rest segments) :
      Splits rules before position (piece ++ rest) (⟨position, .found m⟩ :: segments)
  | skipped {before : Option Char} {position : Nat} {piece rest : List Char}
      {segments : List Segment} (hne : piece ≠ [])
      (hrun : ∀ c ∈ piece, Text.isBlank c = false) (hend : rest.head?.all Text.isBlank = true)
      (hnone : Match.at? rules before (piece ++ rest) = none)
      (hrest : Splits rules piece.getLast? (position + piece.length) rest segments) :
      Splits rules before position (piece ++ rest) (⟨position, .skipped piece⟩ :: segments)

/-- Where no blank stands, a run without blanks starts that ends at a blank or with the text. -/
theorem exists_run {c : Char} (hc : Text.isBlank c = false) (text : List Char) :
    ∃ piece rest, c :: text = piece ++ rest ∧ piece ≠ [] ∧
      (∀ d ∈ piece, Text.isBlank d = false) ∧ rest.head?.all Text.isBlank = true := by
  refine ⟨(c :: text).takeWhile (fun d => !Text.isBlank d),
    (c :: text).dropWhile (fun d => !Text.isBlank d), ?_, ?_, ?_, ?_⟩
  · exact List.takeWhile_append_dropWhile.symm
  · simp [hc]
  · intro d hd
    simpa using List.all_eq_true.mp List.all_takeWhile d hd
  · simpa using Match.head?_dropWhile_all (fun d => !Text.isBlank d) (c :: text)

theorem length_lt_of_append {text piece rest : List Char} (h : text = piece ++ rest)
    (hne : piece ≠ []) : rest.length < text.length := by
  have hpos := List.length_pos_iff.mpr hne
  rw [h, List.length_append]
  omega

/-- **Segments cover the text.** Reading splits a text without gap or overlap. -/
theorem splits_following (rules : Rules) (before : Option Char) (position : Nat) (text : List Char) :
    Splits rules before position text (following rules before position 0 text) := by
  -- What follows a piece is shorter than the text, but no direct part of it.
  induction hn : text.length using Nat.strongRecOn generalizing before position text with
  | ind n ih =>
      subst hn
      cases text with
      | nil => exact .nil
      | cons c text =>
          cases hc : Text.isBlank c with
          | true =>
              rw [following_blank hc]
              exact .blank hc (ih _ (by simp) _ _ _ rfl)
          | false =>
              have hstart : (c :: text).head?.any Text.isBlank = false := by simpa using hc
              cases hm : Match.at? rules before (c :: text) with
              | some m =>
                  obtain ⟨piece, rest, htext, hspells⟩ := Match.spelledAt_of_at? hm
                  have hne := hspells.ne_nil
                  have hlt := length_lt_of_append htext hne
                  rw [htext] at hm hstart ⊢
                  rw [List.head?_append_of_ne_nil _ hne] at hstart
                  rw [following_found hstart hm hspells.length_eq hne]
                  exact .found hne hstart hspells.length_eq hm hspells (ih _ hlt _ _ _ rfl)
              | none =>
                  obtain ⟨piece, rest, htext, hne, hrun, hend⟩ := exists_run hc text
                  have hlt := length_lt_of_append htext hne
                  rw [htext] at hm ⊢
                  rw [following_piece (at_of_skipped hne hrun hend hm) rfl hne]
                  exact .skipped hne hrun hend hm (ih _ hlt _ _ _ rfl)

/-! ## Places -/

/-- The segments start one after the other within `length` characters from `position` on. -/
structure Ordered (position length : Nat) (segments : List Segment) : Prop where
  increasing : (segments.map Segment.position).Pairwise (· < ·)
  ge : ∀ s ∈ segments, position ≤ s.position
  lt : ∀ s ∈ segments, s.position < position + length

theorem Ordered.cons {length n : Nat} {segments : List Segment} (hn : 0 < n)
    (h : Ordered (position + n) length segments) (content : Content) :
    Ordered position (n + length) (⟨position, content⟩ :: segments) where
  increasing := by
    rw [List.map_cons, List.pairwise_cons]
    refine ⟨?_, h.increasing⟩
    intro q hq
    obtain ⟨s, hs, rfl⟩ := List.mem_map.mp hq
    exact Nat.lt_of_lt_of_le (Nat.lt_add_of_pos_right hn) (h.ge s hs)
  ge := by
    intro s hs
    rcases List.mem_cons.mp hs with rfl | hs
    · exact Nat.le_refl position
    · exact Nat.le_trans (Nat.le_add_right position n) (h.ge s hs)
  lt := by
    intro s hs
    rcases List.mem_cons.mp hs with rfl | hs
    · show position < position + (n + length)
      omega
    · have hlt := h.lt s hs
      omega

theorem Splits.ordered {text : List Char} {segments : List Segment}
    (h : Splits rules before position text segments) : Ordered position text.length segments := by
  induction h with
  | nil => exact ⟨by simp, by simp, by simp⟩
  | blank hc hrest ih =>
      rw [List.length_cons, Nat.add_comm]
      exact ih.cons Nat.one_pos _
  | found hne hstart hlength hm hspells hrest ih =>
      rw [List.length_append]
      exact ih.cons (List.length_pos_iff.mpr hne) _
  | skipped hne hrun hend hnone hrest ih =>
      rw [List.length_append]
      exact ih.cons (List.length_pos_iff.mpr hne) _

/-- The piece of a match can be cut out of the text. -/
theorem Splits.spells_of_found {text : List Char} {segments : List Segment} {s : Segment}
    {m : Match} (h : Splits rules before position text segments) (hs : s ∈ segments)
    (hm : s.content = .found m) :
    ∃ front piece rest, text = front ++ piece ++ rest ∧ s.position = position + front.length ∧
      piece.length = m.length ∧ Match.Spells rules piece m := by
  induction h with
  | nil => simp at hs
  | @blank _ position c rest segments hc hrest ih =>
      rcases List.mem_cons.mp hs with rfl | hs
      · simp at hm
      · obtain ⟨front, piece, after, rfl, hq, hspells⟩ := ih hs
        refine ⟨c :: front, piece, after, rfl, ?_, hspells⟩
        rw [hq, List.length_cons]
        omega
  | @found _ position first rest m' segments hne hstart hlength hm' hspells hrest ih =>
      rcases List.mem_cons.mp hs with rfl | hs
      · obtain rfl : m' = m := by simpa using hm
        exact ⟨[], first, rest, rfl, rfl, hlength, hspells⟩
      · obtain ⟨front, piece, after, rfl, hq, hspells⟩ := ih hs
        refine ⟨first ++ front, piece, after, by simp, ?_, hspells⟩
        rw [hq, List.length_append, Nat.add_assoc]
  | @skipped _ position first rest segments hne hrun hend hnone hrest ih =>
      rcases List.mem_cons.mp hs with rfl | hs
      · simp at hm
      · obtain ⟨front, piece, after, rfl, hq, hspells⟩ := ih hs
        refine ⟨first ++ front, piece, after, by simp, ?_, hspells⟩
        rw [hq, List.length_append, Nat.add_assoc]

theorem getLast?_append_or {piece : List Char} (hne : piece ≠ []) (text : List Char)
    (before : Option Char) :
    (piece ++ text).getLast?.or before = text.getLast?.or piece.getLast? := by
  rw [List.getLast?_append, Option.or_assoc, List.getLast?_eq_some_getLast hne, Option.some_or]

/-- Each segment is what stands at its place. -/
theorem Splits.at_of_mem {text : List Char} {segments : List Segment} {s : Segment}
    (h : Splits rules before position text segments) (hs : s ∈ segments) :
    ∃ front after, text = front ++ after ∧ s.position = position + front.length ∧ after ≠ [] ∧
      Content.at rules (front.getLast?.or before) after = s.content := by
  induction h with
  | nil => simp at hs
  | @blank before position c rest segments hc hrest ih =>
      rcases List.mem_cons.mp hs with rfl | hs
      · exact ⟨[], c :: rest, rfl, rfl, by simp, by simp [Content.at, hc]⟩
      · obtain ⟨front, after, rfl, hq, hne, hcontent⟩ := ih hs
        have hlast := getLast?_append_or (List.cons_ne_nil c []) front before
        refine ⟨c :: front, after, rfl, ?_, hne, ?_⟩
        · rw [hq, List.length_cons, Nat.add_right_comm, Nat.add_assoc]
        · rw [← hcontent, ← List.singleton_append, hlast]
          rfl
  | @found before position piece rest m segments hne hstart hlength hm hspells hrest ih =>
      rcases List.mem_cons.mp hs with rfl | hs
      · refine ⟨[], piece ++ rest, rfl, rfl, by simp [hne], at_of_found ?_ hm⟩
        rwa [List.head?_append_of_ne_nil _ hne]
      · obtain ⟨front, after, rfl, hq, hne', hcontent⟩ := ih hs
        refine ⟨piece ++ front, after, by simp, ?_, hne', ?_⟩
        · rw [hq, List.length_append, Nat.add_assoc]
        · rw [getLast?_append_or hne, hcontent]
  | @skipped before position piece rest segments hne hrun hend hnone hrest ih =>
      rcases List.mem_cons.mp hs with rfl | hs
      · exact ⟨[], piece ++ rest, rfl, rfl, by simp [hne], at_of_skipped hne hrun hend hnone⟩
      · obtain ⟨front, after, rfl, hq, hne', hcontent⟩ := ih hs
        refine ⟨piece ++ front, after, by simp, ?_, hne', ?_⟩
        · rw [hq, List.length_append, Nat.add_assoc]
        · rw [getLast?_append_or hne, hcontent]

/-- The match of a segment is what is matched at its place. -/
theorem at?_of_content {text : List Char} {m : Match} (h : Content.at rules before text = .found m) :
    text.head?.any Text.isBlank = false ∧ Match.at? rules before text = some m := by
  unfold Content.at at h
  split at h
  · cases h
  · next hblank =>
      split at h
      · next hm =>
          obtain rfl := Content.found.inj h
          exact ⟨by simpa using hblank, hm⟩
      · cases h

/-- The run of a segment that is skipped starts where nothing is matched. -/
theorem at?_of_skipped {text run : List Char} (h : Content.at rules before text = .skipped run) :
    text.head?.any Text.isBlank = false ∧ Match.at? rules before text = none ∧
      run = text.takeWhile fun c => !Text.isBlank c := by
  unfold Content.at at h
  split at h
  · cases h
  · next hblank =>
      split at h
      · cases h
      · next hm => exact ⟨by simpa using hblank, hm, (Content.skipped.inj h).symm⟩

end RecordQuery.Segment
