import RecordQuery.Proofs.Query.Spelling

/-!
# The shapes of matches

A match is read from a piece of text of one of a few shapes, and its shape tells what it stands for.
The main statement, `spelledAt_of_at?`, says that whatever is matched at a place is a prefix of the
text there with the shape that its reading asks for.
-/

namespace RecordQuery

/-- The terms that a reading stands for. -/
def Match.Reading.terms : Match.Reading → List Term
  | .tokens kinds => kinds.filterMap fun
    | .term x => some x
    | _ => none
  | .malformed => []

namespace Match

/-- A match of a key, a separator and a literal. -/
def ofLiteral (key separator literal : List Char) (reading : Reading) : Match where
  length := key.length + separator.length + literal.length
  key := some (String.ofList key)
  value := String.ofList literal
  reading := reading

/-- The pieces of text that matches are read from. A value without a key takes the default key, which
the piece does not spell. A comparison stands for one term, unless it asks for equality with a period
and so for its two bounds; a range stands for its two bounds. -/
inductive Spells (rules : Rules) : List Char → Match → Prop
  | openGroup : Spells rules ['('] (sign 1 (.openGroup false))
  | negatedGroup {c : Char} (hc : c = '-' ∨ c = '!') :
      Spells rules [c, '('] (sign 2 (.openGroup true))
  | closeGroup : Spells rules [')'] (sign 1 .closeGroup)
  | negation {c : Char} (hc : c = '-' ∨ c = '!') : Spells rules [c] (sign 1 .negation)
  | joiner {word : List Char} {j : Joiner} (hj : Joiner.ofWord? (String.ofList word) = some j) :
      Spells rules word (sign word.length (.joiner j))
  | unkeyed {v : Value} (hv : v.spelled ≠ []) :
      Spells rules v.spelled (ofValue v.length rules.defaultKey v)
  | keyed {key : List Char} {v : Value} (hkey : isKey key = true) (hv : v.spelled ≠ []) :
      Spells rules (key ++ ':' :: v.spelled)
        (ofValue (key.length + 1 + v.length) (some (String.ofList key)) v)
  | number {key literal : List Char} {c : Comparison} {x : Number} (hkey : isKey key = true)
      (hx : Literal.classify literal = .valid (.number x)) :
      Spells rules (key ++ c.spelling.toList ++ literal)
        (ofLiteral key c.spelling.toList literal (.tokens [.term (.number (String.ofList key) c x)]))
  | date {key literal : List Char} {c : Comparison} {p : Period} {x : Instant}
      (hkey : isKey key = true) (hp : Literal.classify literal = .valid (.period p))
      (hx : x = p.first ∨ x = p.last) (hone : c.isEquality = false ∨ p.timed = true) :
      Spells rules (key ++ c.spelling.toList ++ literal)
        (ofLiteral key c.spelling.toList literal (.tokens [.term (.date (String.ofList key) c x)]))
  | period {key literal : List Char} {c : Comparison} {p : Period} (hkey : isKey key = true)
      (hp : Literal.classify literal = .valid (.period p)) (hc : c.isEquality = true)
      (hcoarse : p.timed = false) :
      Spells rules (key ++ c.spelling.toList ++ literal)
        (ofLiteral key c.spelling.toList literal
          (.tokens (periodTokens (String.ofList key) p.first p.last)))
  | malformed {key literal : List Char} {c : Comparison} (hkey : isKey key = true)
      (hbad : Literal.classify literal = .malformed) :
      Spells rules (key ++ c.spelling.toList ++ literal)
        (ofLiteral key c.spelling.toList literal .malformed)
  | numberRange {key low high : List Char} {c : Comparison} {a b : Number} (hkey : isKey key = true)
      (hc : c.isEquality = true) (ha : Literal.classify low = .valid (.number a))
      (hb : Literal.classify high = .valid (.number b)) :
      Spells rules (key ++ c.spelling.toList ++ (low ++ '.' :: '.' :: high))
        (ofLiteral key c.spelling.toList (low ++ '.' :: '.' :: high)
          (.tokens [.term (.number (String.ofList key) .atLeast a),
            .term (.number (String.ofList key) .atMost b)]))
  | periodRange {key low high : List Char} {c : Comparison} {a b : Period} (hkey : isKey key = true)
      (hc : c.isEquality = true) (ha : Literal.classify low = .valid (.period a))
      (hb : Literal.classify high = .valid (.period b)) :
      Spells rules (key ++ c.spelling.toList ++ (low ++ '.' :: '.' :: high))
        (ofLiteral key c.spelling.toList (low ++ '.' :: '.' :: high)
          (.tokens (periodTokens (String.ofList key) a.first b.last)))
  | malformedRange {key low high : List Char} {c : Comparison} (hkey : isKey key = true)
      (hc : c.isEquality = true)
      (hbad : Literal.classify low = .malformed ∨ Literal.classify high = .malformed) :
      Spells rules (key ++ c.spelling.toList ++ (low ++ '.' :: '.' :: high))
        (ofLiteral key c.spelling.toList (low ++ '.' :: '.' :: high) .malformed)

variable {rules : Rules} {piece : List Char} {m : Match}

/-- A match is as long as the piece that it is read from. -/
theorem Spells.length_eq (h : Spells rules piece m) : piece.length = m.length := by
  cases h <;> simp [sign, ofValue, ofLiteral] <;> omega

theorem Spells.ne_nil (h : Spells rules piece m) : piece ≠ [] := by
  cases h with
  | joiner hj =>
      rintro rfl
      simp [Joiner.ofWord?] at hj
  | unkeyed hv => exact hv
  | keyed hkey => simp
  | number hkey | date hkey | period hkey | malformed hkey | numberRange hkey | periodRange hkey
  | malformedRange hkey => simp [ne_nil_of_isKey hkey]
  | _ => simp

/-- The text starts with a piece that spells the match. -/
def SpelledAt (rules : Rules) (text : List Char) (m : Match) : Prop :=
  ∃ piece rest, text = piece ++ rest ∧ Spells rules piece m

variable {text : List Char}

/-! ## Signs -/

theorem spelledAt_of_openGroup? {before : Option Char} (h : openGroup? before text = some m) :
    SpelledAt rules text m := by
  unfold openGroup? at h
  split at h
  · split at h
    · next rest =>
        obtain rfl := Option.some.inj h
        exact ⟨_, rest, rfl, .openGroup⟩
    · next rest =>
        obtain rfl := Option.some.inj h
        exact ⟨['-', '('], rest, rfl, .negatedGroup (Or.inl rfl)⟩
    · next rest =>
        obtain rfl := Option.some.inj h
        exact ⟨['!', '('], rest, rfl, .negatedGroup (Or.inr rfl)⟩
    · simp at h
  · simp at h

theorem spelledAt_of_closeGroup? (h : closeGroup? text = some m) : SpelledAt rules text m := by
  unfold closeGroup? at h
  split at h
  · next rest =>
      obtain rfl := Option.some.inj h
      exact ⟨_, rest, rfl, .closeGroup⟩
  · simp at h

theorem spelledAt_of_negation? (h : negation? text = some m) : SpelledAt rules text m := by
  unfold negation? at h
  split at h
  · next c rest =>
      split at h
      · next hc =>
          obtain rfl := Option.some.inj h
          simp only [Bool.and_eq_true, Bool.or_eq_true, decide_eq_true_eq] at hc
          exact ⟨[c], rest, rfl, .negation hc.1⟩
      · simp at h
  · simp at h

/-! ## Comparisons and ranges -/

theorem eq_append_of_splitRange? {literal low high : List Char}
    (h : splitRange? literal = some (low, high)) : literal = low ++ '.' :: '.' :: high := by
  fun_induction splitRange? literal generalizing low high with
  | case1 rest =>
      obtain ⟨rfl, rfl⟩ : [] = low ∧ rest = high := by simpa using h
      rfl
  | case2 c rest _ ih =>
      obtain ⟨⟨low', high'⟩, hsplit, heq⟩ := Option.map_eq_some_iff.mp h
      obtain ⟨rfl, rfl⟩ : c :: low' = low ∧ high' = high := by simpa using heq
      rw [ih hsplit]
      rfl
  | case3 => simp at h

/-- A comparison of a key with a literal that is read has one of four shapes. -/
theorem spells_of_comparisonReading? {key literal : List Char} {c : Comparison} {r : Reading}
    (hkey : isKey key = true)
    (h : comparisonReading? (String.ofList key) c (Literal.classify literal) = some r) :
    Spells rules (key ++ c.spelling.toList ++ literal)
      (ofLiteral key c.spelling.toList literal r) := by
  cases hl : Literal.classify literal with
  | neither => simp [hl, comparisonReading?] at h
  | malformed =>
      obtain rfl : Reading.malformed = r := by simpa [hl, comparisonReading?] using h
      exact .malformed hkey hl
  | valid l =>
      cases l with
      | number x =>
          simp only [hl, comparisonReading?, Option.some.injEq] at h
          subst h
          exact .number hkey hl
      | period p =>
          simp only [hl, comparisonReading?, Option.some.injEq] at h
          subst h
          cases c with
          | less | atLeast => exact .date hkey hl (Or.inl rfl) (Or.inl rfl)
          | atMost | greater => exact .date hkey hl (Or.inr rfl) (Or.inl rfl)
          | colon | equal =>
              cases ht : p.timed with
              | false =>
                  simp only [dateTokens, ht]
                  exact .period hkey hl rfl ht
              | true =>
                  simp only [dateTokens, ht]
                  exact .date hkey hl (Or.inl rfl) (Or.inr ht)

/-- A range between two literals that is read has one of three shapes. -/
theorem spells_of_rangeReading? {key low high : List Char} {c : Comparison} {r : Reading}
    (hkey : isKey key = true) (hc : c.isEquality = true)
    (h : rangeReading? (String.ofList key) (Literal.classify low) (Literal.classify high) = some r) :
    Spells rules (key ++ c.spelling.toList ++ (low ++ '.' :: '.' :: high))
      (ofLiteral key c.spelling.toList (low ++ '.' :: '.' :: high) r) := by
  unfold rangeReading? at h
  split at h
  · next a b ha hb =>
      obtain rfl := Option.some.inj h
      exact .numberRange hkey hc ha hb
  · next a b ha hb =>
      obtain rfl := Option.some.inj h
      exact .periodRange hkey hc ha hb
  · simp at h
  · simp at h
  · simp at h
  · next hlow hhigh _ _ hvalid =>
      obtain rfl := Option.some.inj h
      refine .malformedRange hkey hc ?_
      cases ha : Literal.classify low with
      | malformed => exact Or.inl rfl
      | neither => exact absurd ha hlow
      | valid a =>
          cases hb : Literal.classify high with
          | malformed => exact Or.inr rfl
          | neither => exact absurd hb hhigh
          | valid b => exact (hvalid a b ha hb).elim

/-- What a comparison is read from: a key, a sign and the longest run of characters of literals. -/
theorem exists_of_compared? (h : compared? text = some m) :
    ∃ key c after r, text = key ++ c.spelling.toList ++ after ∧ isKey key = true ∧
      key? text = some (key, c.spelling.toList ++ after) ∧
      comparison? (c.spelling.toList ++ after) = some (c, after) ∧
      comparisonReading? (String.ofList key) c
        (Literal.classify (after.takeWhile Literal.isLiteralChar)) = some r ∧
      m = ofLiteral key c.spelling.toList (after.takeWhile Literal.isLiteralChar) r := by
  obtain ⟨⟨key, rest⟩, hkey, hafterKey⟩ := Option.bind_eq_some_iff.mp h
  obtain ⟨⟨c, after⟩, hc, hafterSign⟩ := Option.bind_eq_some_iff.mp hafterKey
  dsimp only at hafterSign
  split at hafterSign
  · simp at hafterSign
  · obtain ⟨r, hr, hm⟩ := Option.bind_eq_some_iff.mp hafterSign
    obtain rfl := Option.some.inj hm
    obtain ⟨htext, hshape, -⟩ := key?_eq_some_iff.mp hkey
    obtain rfl := eq_append_of_comparison? hc
    exact ⟨key, c, after, r, by rw [htext, List.append_assoc], hshape, hkey, hc, hr, rfl⟩

/-- What a range is read from, likewise. -/
theorem exists_of_range? (h : range? text = some m) :
    ∃ key c after low high r, text = key ++ c.spelling.toList ++ after ∧ isKey key = true ∧
      key? text = some (key, c.spelling.toList ++ after) ∧
      comparison? (c.spelling.toList ++ after) = some (c, after) ∧ c.isEquality = true ∧
      splitRange? (after.takeWhile Literal.isLiteralChar) = some (low, high) ∧
      rangeReading? (String.ofList key) (Literal.classify low) (Literal.classify high) = some r ∧
      m = ofLiteral key c.spelling.toList (after.takeWhile Literal.isLiteralChar) r := by
  obtain ⟨⟨key, rest⟩, hkey, hafterKey⟩ := Option.bind_eq_some_iff.mp h
  obtain ⟨⟨c, after⟩, hc, hafterSign⟩ := Option.bind_eq_some_iff.mp hafterKey
  dsimp only at hafterSign
  split at hafterSign
  · simp at hafterSign
  · next heq =>
      obtain ⟨⟨low, high⟩, hsplit, hparts⟩ := Option.bind_eq_some_iff.mp hafterSign
      obtain ⟨r, hr, hm⟩ := Option.bind_eq_some_iff.mp hparts
      obtain rfl := Option.some.inj hm
      obtain ⟨htext, hshape, -⟩ := key?_eq_some_iff.mp hkey
      obtain rfl := eq_append_of_comparison? hc
      have hequal : c.isEquality = true := by simpa using heq
      refine ⟨key, c, after, low, high, r, by rw [htext, List.append_assoc], hshape, hkey, hc, hequal,
        hsplit, hr, ?_⟩
      rw [ofLiteral, length_spelling_of_isEquality hequal]

theorem spelledAt_of_compared? (h : compared? text = some m) : SpelledAt rules text m := by
  obtain ⟨key, c, after, r, rfl, hshape, -, -, hr, rfl⟩ := exists_of_compared? h
  refine ⟨_, after.dropWhile Literal.isLiteralChar, ?_, spells_of_comparisonReading? hshape hr⟩
  simp [List.takeWhile_append_dropWhile]

theorem spelledAt_of_range? (h : range? text = some m) : SpelledAt rules text m := by
  obtain ⟨key, c, after, low, high, r, rfl, hshape, -, -, hequal, hsplit, hr, rfl⟩ :=
    exists_of_range? h
  have hspells : Spells rules _ _ := spells_of_rangeReading? hshape hequal hr
  rw [← eq_append_of_splitRange? hsplit] at hspells
  refine ⟨_, after.dropWhile Literal.isLiteralChar, ?_, hspells⟩
  simp [List.takeWhile_append_dropWhile]

/-! ## Terms -/

theorem spelledAt_of_keyed? (h : keyed? text = some m) : SpelledAt rules text m := by
  obtain ⟨⟨key, rest⟩, hkey, hafterKey⟩ := Option.bind_eq_some_iff.mp h
  dsimp only at hafterKey
  split at hafterKey
  · next after =>
      obtain ⟨v, hv, hm⟩ := Option.bind_eq_some_iff.mp hafterKey
      obtain rfl := Option.some.inj hm
      obtain ⟨rfl, hshape, -⟩ := key?_eq_some_iff.mp hkey
      obtain ⟨hne, rest, rfl⟩ := eq_append_of_value? hv
      exact ⟨_, rest, by simp, .keyed hshape hne⟩
  · simp at hafterKey

theorem spelledAt_of_unkeyed? (h : unkeyed? rules text = some m) : SpelledAt rules text m := by
  obtain ⟨v, hv, hreading⟩ := Option.bind_eq_some_iff.mp h
  obtain ⟨hne, rest, rfl⟩ := eq_append_of_value? hv
  dsimp only at hreading
  split at hreading
  · next j hj =>
      obtain rfl := Option.some.inj hreading
      obtain ⟨form, word⟩ := v
      cases form with
      | word => exact ⟨word, rest, rfl, .joiner hj⟩
      | phrase | regex => simp at hj
  · obtain rfl := Option.some.inj hreading
    exact ⟨_, rest, rfl, .unkeyed hne⟩

theorem keyed_or_unkeyed (h : term? rules text = some m) :
    keyed? text = some m ∨ unkeyed? rules text = some m := by
  cases hkeyed : keyed? text with
  | some k => exact .inl (by simpa [term?, hkeyed] using h)
  | none => exact .inr (by simpa [term?, hkeyed] using h)

theorem spelledAt_of_term? (h : term? rules text = some m) : SpelledAt rules text m := by
  rcases keyed_or_unkeyed h with hkeyed | hunkeyed
  · exact spelledAt_of_keyed? hkeyed
  · exact spelledAt_of_unkeyed? hunkeyed

/-- **Matches are spelled.** Whatever is matched at a place is a prefix of the text there, of the
shape that its reading asks for. -/
theorem spelledAt_of_at? {before : Option Char} (h : at? rules before text = some m) :
    SpelledAt rules text m := by
  have hmem := mem_of_longest h
  simp only [List.mem_cons, List.not_mem_nil, or_false] at hmem
  rcases hmem with hopen | hclose | hnegation | hrange | hcompared | hterm
  · exact spelledAt_of_openGroup? hopen.symm
  · exact spelledAt_of_closeGroup? hclose.symm
  · exact spelledAt_of_negation? hnegation.symm
  · exact spelledAt_of_range? hrange.symm
  · exact spelledAt_of_compared? hcompared.symm
  · exact spelledAt_of_term? hterm.symm

end Match

end RecordQuery
