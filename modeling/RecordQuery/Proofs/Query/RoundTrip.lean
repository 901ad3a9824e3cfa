import RecordQuery.Proofs.Query.Beginning

/-!
# Printed trees are read back

A tree whose leaves are phrases and regular expressions is printed as text from which it is read
back. Each part of the text is read on its own, whatever stands around it: an operand follows the
start of the query, a blank or a parenthesis, and ends before a blank, a parenthesis or the end.
-/

namespace RecordQuery

open Segment

/-- The term is a phrase or regular expression whose text does not end it early, under a key or
none. -/
def Term.isDelimited : Term → Bool
  | text key form s =>
    key.all (Match.isKey ·.toList) && Match.Value.isDelimited ⟨form, s.toList⟩
  | _ => false

/-- All terms of the tree are such. -/
def Tree.isDelimited : Tree → Bool
  | leaf c => c.term.isDelimited
  | node _ l r _ => l.isDelimited && r.isDelimited

variable {before : Option Char} {rest : List Char}

/-- A term starts with a character of a key or with a delimiter. -/
theorem exists_termStart {x : Term} (hx : x.isDelimited = true) :
    ∃ c text, x.spelled = c :: text ∧ (Match.isKeyStart c = true ∨ c = '"' ∨ c = '/') := by
  cases x with
  | number _ _ _ | date _ _ _ => simp [Term.isDelimited] at hx
  | text key form s =>
      obtain ⟨hkey, hv⟩ := Bool.and_eq_true_iff.mp hx
      cases key with
      | none =>
          obtain ⟨c, text, hc, hdelimiter⟩ := Match.exists_delimiter hv
          exact ⟨c, text, hc, Or.inr hdelimiter⟩
      | some k =>
          have hk : Match.isKey k.toList = true := hkey
          cases htext : k.toList with
          | nil => simp [htext, Match.isKey] at hk
          | cons c text =>
              rw [htext] at hk
              exact ⟨c, text ++ ':' :: form.enclose s.toList, by simp [Term.spelled, htext],
                Or.inl (Bool.and_eq_true_iff.mp hk).1⟩

theorem startsTerm_not_blank {c : Char} (h : Match.isKeyStart c = true ∨ c = '"' ∨ c = '/') :
    c ≠ '(' ∧ Text.isBlank c = false := by
  rcases h with hkey | rfl | rfl
  · refine ⟨?_, Match.isBlank_of_isKeyStart hkey⟩
    rintro rfl
    revert hkey
    decide
  · decide
  · decide

/-- A delimited term is read wherever no word goes on after it. -/
theorem reads_term {x : Term} (hx : x.isDelimited = true)
    (hrest : rest.head?.all (!Match.isWordChar ·) = true) :
    Reads {} before x.spelled rest [.term x] := by
  obtain ⟨c, tail, hc, hstart⟩ := exists_termStart hx
  have hne : x.spelled ≠ [] := by simp [hc]
  have hblank : x.spelled.head?.any Text.isBlank = false := by
    simpa [hc] using (startsTerm_not_blank hstart).2
  cases x with
  | number _ _ _ | date _ _ _ => simp [Term.isDelimited] at hx
  | text key form s =>
      obtain ⟨hkey, hv⟩ := Bool.and_eq_true_iff.mp hx
      have hlength := Match.Value.length_spelled ⟨form, s.toList⟩
      cases key with
      | none =>
          exact .found hne hblank (Match.at?_unkeyed hv hrest) hlength
            (by simp [Match.ofValue]) rfl
      | some k =>
          have hpiece : (Term.text (some k) form s).spelled ++ rest =
              k.toList ++ ':' :: ((⟨form, s.toList⟩ : Match.Value).spelled ++ rest) := by
            simp [Term.spelled, Match.Value.spelled]
          refine .found hne hblank (hpiece ▸ Match.at?_keyed hkey hv hrest) ?_
            (by simp [Match.ofValue]) rfl
          simp [Term.spelled, Match.ofValue, ← hlength, Match.Value.spelled]
          omega

theorem reads_tree {t : Tree} (ht : t.isDelimited = true)
    (hbefore : before.all Match.isBoundary = true)
    (hrest : rest.head?.all (!Match.isWordChar ·) = true) :
    Reads {} before t.spelled rest t.kinds := by
  induction t generalizing before rest with
  | leaf c =>
      have hc : c.term.isDelimited = true := ht
      cases hn : c.negated with
      | false => simpa [Tree.spelled, Tree.kinds, hn] using reads_term hc hrest
      | true =>
          obtain ⟨d, tail, hd, hstart⟩ := exists_termStart hc
          have hopen : (c.term.spelled ++ rest).head? ≠ some '(' := by
            simpa [hd] using (startsTerm_not_blank hstart).1
          have hhyphen : Reads {} before ['-'] (c.term.spelled ++ rest) [.negation] :=
            .found (by simp) (by decide) (Match.at?_negation (.inl rfl) hopen) rfl rfl rfl
          rw [Tree.spelled, Tree.kinds, if_pos hn, if_pos hn]
          exact hhyphen.append (reads_term hc hrest)
  | node o l r n ihl ihr =>
      obtain ⟨hl, hr⟩ := Bool.and_eq_true_iff.mp ht
      have hafterOpen : ((if n then ['-', '('] else ['(']).getLast?.or before).all
          Match.isBoundary = true := by
        cases n <;> simp [Match.isBoundary]
      have hafterBlank : Match.isBoundary ' ' = true := by decide
      have hblank : Match.isWordChar ' ' = false := by decide
      have hclose : Match.isWordChar ')' = false := by decide
      have hspelled : (Tree.node o l r n).spelled =
          (if n then ['-', '('] else ['(']) ++ (l.spelled ++ ([' '] ++ (o.spelling.toList ++
            ([' '] ++ (r.spelled ++ [')']))))) := by
        simp [Tree.spelled]
      have hkinds : (Tree.node o l r n).kinds =
          [.openGroup n] ++ (l.kinds ++ ([] ++ ([.joiner o.joiner] ++
            ([] ++ (r.kinds ++ [.closeGroup]))))) := by
        simp [Tree.kinds]
      rw [hspelled, hkinds]
      refine (reads_openGroup hbefore n _).append ((ihl hl hafterOpen ?_).append
        ((Reads.blank (by decide) _).append ((reads_joiner _ o _).append
          ((Reads.blank (by decide) _).append ((ihr hr ?_ ?_).append (reads_closeGroup _ _))))))
      · simp [hblank]
      · simpa using hafterBlank
      · simp [hclose]

/-- **Printed trees are read back.** The text of a tree of delimited terms is read without a problem,
and the tree built from its tokens is the one printed, but for the places of its leaves. -/
theorem ofTokens?_ofText_spelled (t : Tree) (ht : t.isDelimited = true) :
    (TokenStream.ofText {} (String.ofList t.spelled)).problems = [] ∧
      (Tree.ofTokens? (TokenStream.ofText {} (String.ofList t.spelled)).tokens).map Tree.unplaced =
        some t.unplaced := by
  have hreads : Reads {} none t.spelled [] t.kinds := reads_tree ht rfl rfl
  obtain ⟨hkinds, hproblems⟩ := hreads.ofText
  have hchain : (allTokens {} (Segment.ofText {} t.spelled)).IsChain
      (Cleanup.clash ·.kind ·.kind = false) := by
    have hmapped : ((allTokens {} (Segment.ofText {} t.spelled)).map Token.kind).IsChain
        (Cleanup.clash · · = false) := by
      rw [hkinds]
      exact t.isChain_kinds
    exact (List.isChain_map Token.kind).mp hmapped
  have htokens : (TokenStream.ofText {} (String.ofList t.spelled)).tokens =
      allTokens {} (Segment.ofText {} t.spelled) := by
    simp only [TokenStream.ofText, String.toList_ofList]
    exact cleanup_of_isChain hchain
  refine ⟨?_, ?_⟩
  · simpa only [TokenStream.ofText, String.toList_ofList] using hproblems
  · rw [htokens, Tree.unplaced_ofTokens?, hkinds, Tree.ofTokens?_kinds]

/-- A negated group of a negated regular expression under a key and a phrase. -/
theorem ofTokens?_ofText_group :
    let t : Tree := .node .or (.leaf ⟨.text (some "a.b") .regex "x (\\/y", 4, true⟩)
      (.leaf ⟨.text none .phrase "p AND (q", 20, false⟩) true
    t.isDelimited = true ∧ t.spelled = "-(-a.b:/x (\\/y/ OR \"p AND (q\")".toList ∧
      (TokenStream.ofText {} (String.ofList t.spelled)).problems = [] ∧
      (Tree.ofTokens? (TokenStream.ofText {} (String.ofList t.spelled)).tokens).map Tree.unplaced =
        some t.unplaced :=
  ⟨by decide, by decide, ofTokens?_ofText_spelled _ (by decide)⟩

end RecordQuery
