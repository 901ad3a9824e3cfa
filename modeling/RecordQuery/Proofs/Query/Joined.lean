import RecordQuery.Proofs.Query.Between

/-!
# Two queries joined by a blank

A text without quotes and slashes leaves nothing open, so a blank ends all that is read in it. Behind
the blank another text is read as if it stood alone but further on. Negations do not stop at the blank,
and neither does cleanup, but no term and no problem depends on them.
-/

namespace RecordQuery

/-- The problem further on in the query. -/
def Problem.shift (d : Nat) (p : Problem) : Problem := { p with position := p.position + d }

namespace Segment

variable {rules : Rules}

/-! ## Segments further on -/

theorem termTokens_shift (d : Nat) (s : Segment) :
    (s.shift d).termTokens rules = (s.termTokens rules).map (Token.shift d) := by
  have hterms : (s.shift d).terms rules = s.terms rules := rfl
  rw [termTokens, termTokens, hterms, List.map_map]
  rfl

theorem flatMap_termTokens_shift (d : Nat) (segments : List Segment) :
    (segments.map (shift d)).flatMap (termTokens rules) =
      (segments.flatMap (termTokens rules)).map (Token.shift d) := by
  simp only [List.flatMap_map, List.map_flatMap, termTokens_shift]

theorem problem?_shift (d : Nat) (s : Segment) :
    (s.shift d).problem? rules = (s.problem? rules).map (Problem.shift d) := by
  obtain ⟨position, content⟩ := s
  cases content with
  | blank | skipped text => rfl
  | found m =>
      simp only [problem?, shift]
      cases m.key.filter (!rules.accepts ·) with
      | some key => rfl
      | none =>
          cases m.reading with
          | tokens kinds => rfl
          | malformed => cases rules.strictLiterals <;> rfl

theorem allProblems_shift (d : Nat) (segments : List Segment) :
    allProblems rules (segments.map (shift d)) =
      (allProblems rules segments).map (Problem.shift d) := by
  rw [allProblems, allProblems, List.filterMap_map, List.map_filterMap]
  exact List.filterMap_congr fun s _ => problem?_shift d s

/-! ## The blank between -/

/-- The segments of two texts with a blank between them. -/
theorem ofText_append_cons (rules : Rules) {first : List Char} (hquote : '"' ∉ first)
    (hslash : '/' ∉ first) (second : List Char) :
    Segment.ofText rules (first ++ ' ' :: second) =
      Segment.ofText rules first ++
        ⟨first.length, .blank⟩ :: (Segment.ofText rules second).map (shift (first.length + 1)) := by
  have hsplits := splits_following rules none 0 first
  have hbehind : following rules (some ' ') (first.length + 1) 0 second =
      (Segment.ofText rules second).map (shift (first.length + 1)) :=
    following_of_isBoundary rules (by decide) _ second
  rw [Segment.ofText, hsplits.following_append (ends_blank hquote hslash second),
    following_blank (by decide), Nat.zero_add, hbehind]
  rfl

end Segment

namespace TokenStream

/-- **Reading is local.** The terms of a query that holds no quote and no slash, a blank and any other
query are those of the first and then those of the second, further on by what stands before it; and so
are the problems. -/
theorem ofText_append_blank (rules : Rules) {first : String} (second : String)
    (hquote : '"' ∉ first.toList) (hslash : '/' ∉ first.toList) :
    (ofText rules (first ++ " " ++ second)).tokens.filter (·.kind.isTerm) =
        (ofText rules first).tokens.filter (·.kind.isTerm) ++
          ((ofText rules second).tokens.filter (·.kind.isTerm)).map
            (Token.shift (first.length + 1)) ∧
      (ofText rules (first ++ " " ++ second)).problems =
        (ofText rules first).problems ++
          (ofText rules second).problems.map (Problem.shift (first.length + 1)) := by
  have htext : (first ++ " " ++ second).toList = first.toList ++ ' ' :: second.toList := by
    simp [String.toList_append]
  have hsegments := Segment.ofText_append_cons rules hquote hslash second.toList
  rw [← htext, String.length_toList] at hsegments
  constructor
  · rw [filter_isTerm_ofText, filter_isTerm_ofText, filter_isTerm_ofText, hsegments,
      ← Segment.flatMap_termTokens_shift, List.flatMap_append]
    -- The blank itself yields no term.
    rfl
  · have hproblems : ∀ text, (ofText rules text).problems =
        Segment.allProblems rules (Segment.ofText rules text.toList) := fun _ => rfl
    rw [hproblems, hproblems, hproblems, hsegments, ← Segment.allProblems_shift,
      Segment.allProblems, List.filterMap_append]
    rfl

/-- A negation, a group and a joiner across the blank, with a key that is not allowed before it and a
malformed literal after it. -/
theorem ofText_append_blank_signs :
    let rules : Rules :=
      { validKeys := some ["made", "name"], defaultKey := some "name", strictLiterals := true }
    '"' ∉ "x -(price:1 OR -".toList ∧ '/' ∉ "x -(price:1 OR -".toList ∧
      ((ofText rules ("x -(price:1 OR -" ++ " " ++ "OR /y/) made:2024-13 -made>2024")).tokens.filter
        (·.kind.isTerm)).map Token.position = [0, 20, 39] ∧
      (ofText rules ("x -(price:1 OR -" ++ " " ++ "OR /y/) made:2024-13 -made>2024")).problems =
        [⟨.invalidKey "price" "1", 4⟩, ⟨.invalidLiteral (some "made") "2024-13", 25⟩] := by
  intro rules
  have hquote : '"' ∉ "x -(price:1 OR -".toList := by decide
  have hslash : '/' ∉ "x -(price:1 OR -".toList := by decide
  obtain ⟨hterms, hproblems⟩ :=
    ofText_append_blank rules "OR /y/) made:2024-13 -made>2024" hquote hslash
  refine ⟨hquote, hslash, ?_, ?_⟩
  · rw [hterms, filter_isTerm_ofText, filter_isTerm_ofText]
    decide +kernel
  · rw [hproblems]
    decide +kernel

end TokenStream

end RecordQuery
