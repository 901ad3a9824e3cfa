import RecordQuery.Proofs.Query.Compared
import RecordQuery.Proofs.Query.Unread

/-!
# Literals that are whole words

After a key and a colon or equals sign, a term is read from the whole run of word characters, so that a
literal which ends before that run does is no longest match: the chunk is taken as a whole, and nothing of it
is left for a term of its own. After an angle nothing but the comparison reads on.
-/

namespace RecordQuery

/-- A term that a comparison of a key with a literal stands for, or a range between two literals. -/
inductive Term.ReadFrom (x : Term) (key : List Char) (c : Comparison) : List Char → Prop
  | comparison {literal : List Char} {kinds : List Token.Kind}
      (hr : Match.comparisonReading? (String.ofList key) c (Literal.classify literal) =
        some (.tokens kinds)) (hx : .term x ∈ kinds) : ReadFrom x key c literal
  | range {low high : List Char} {kinds : List Token.Kind} (hc : c.isEquality = true)
      (hr : Match.rangeReading? (String.ofList key) (Literal.classify low) (Literal.classify high) =
        some (.tokens kinds)) (hx : .term x ∈ kinds) : ReadFrom x key c (low ++ '.' :: '.' :: high)

namespace Match

variable {rules : Rules} {before : Option Char} {text key after : List Char} {m : Match}
  {c : Comparison}

/-! ## Terms in the place of comparisons -/

theorem isWordStart_of_isLiteralChar {d : Char} (h : Literal.isLiteralChar d = true) (hd : d ≠ '-') :
    isWordStart d = true := by
  have hne : ∀ e, Literal.isLiteralChar e = false → (d == e) = false := by
    intro e he
    rw [beq_eq_false_iff_ne]
    rintro rfl
    simp [h] at he
  simp [isWordStart, isWordChar_of_isLiteralChar h, hd, hne '&' (by decide), hne '|' (by decide),
    hne '!' (by decide), hne '"' (by decide), hne '/' (by decide)]

/-- A word goes on to the end of its run. -/
theorem value?_run {d : Char} (hd : isWordStart d = true) (text : List Char) :
    value? (d :: text) = some ⟨.word, (d :: text).takeWhile isWordChar⟩ := by
  have hrun : ∀ e ∈ text.takeWhile isWordChar, isWordChar e = true :=
    List.all_eq_true.mp List.all_takeWhile
  have hword := value?_word hd hrun (head?_dropWhile_all isWordChar text)
  have hstart : isWordChar d = true := (Bool.and_eq_true_iff.mp hd).1
  rwa [List.cons_append, List.takeWhile_append_dropWhile,
    ← List.takeWhile_cons_of_pos hstart] at hword

/-- A value that starts with a character of literals is a word and takes the whole chunk. -/
theorem length_value?_chunk (hafter : after.head?.any Literal.isLiteralChar = true) {v : Value}
    (hv : value? after = some v) : v.length = (after.takeWhile isWordChar).length := by
  cases after with
  | nil => cases hafter
  | cons d after =>
      by_cases hd : d = '-'
      · subst hd
        simp [value?, phrase?, regex?, word?, longest] at hv
      · rw [value?_run (isWordStart_of_isLiteralChar hafter hd)] at hv
        obtain rfl := Option.some.inj hv
        rfl

/-- After a key and a sign that words may hold, a term takes the whole chunk: as the value of the key, or
together with the key and the sign. -/
theorem exists_term?_chunk (rules : Rules) (hkey : isKey key = true) (hc : c.isEquality = true)
    (hafter : after.head?.any Literal.isLiteralChar = true) :
    ∃ m, term? rules (key ++ c.spelling.toList ++ after) = some m ∧
      m.length = key.length + 1 + (after.takeWhile isWordChar).length := by
  have hscan := key?_compared hkey c after
  rw [← List.append_assoc] at hscan
  cases hkeyed : keyed? (key ++ c.spelling.toList ++ after) with
  | some m =>
      refine ⟨m, by rw [term?, hkeyed]; rfl, ?_⟩
      rw [keyed?, hscan] at hkeyed
      cases c with
      | equal => cases hkeyed
      | colon =>
          have hbind : (value? after).bind (fun v => some (ofValue (key.length + 1 + v.length)
              (some (String.ofList key)) v)) = some m := hkeyed
          obtain ⟨v, hv, hm⟩ := Option.bind_eq_some_iff.mp hbind
          obtain rfl := Option.some.inj hm
          rw [← length_value?_chunk hafter hv]
          rfl
      | _ => cases hc
  | none =>
      have hsign : c.spelling.toList.all isWordChar = true := by
        cases c with
        | colon | equal => decide
        | _ => cases hc
      have hone := length_spelling_of_isEquality hc
      have hfront : ∀ d ∈ key ++ c.spelling.toList, isWordChar d = true := by
        intro d hd
        rcases List.mem_append.mp hd with hd | hd
        · exact isWordChar_of_isKeyChar (isKeyChar_of_mem hkey hd)
        · exact List.all_eq_true.mp hsign d hd
      have hvalue : value? (key ++ c.spelling.toList ++ after) =
          some ⟨.word, key ++ c.spelling.toList ++ after.takeWhile isWordChar⟩ := by
        rw [← List.takeWhile_append_of_pos hfront]
        cases key with
        | nil => cases hkey
        | cons k key =>
            exact value?_run (isWordStart_of_isKeyStart (Bool.and_eq_true_iff.mp hkey).1) _
      obtain ⟨m, hm, hmlength⟩ := exists_unkeyed? rules hvalue
      refine ⟨m, by rw [term?, hkeyed, hm]; rfl, ?_⟩
      rw [hmlength, Value.length, List.length_append, List.length_append, hone]

/-! ## The longest match -/

/-- A range and a comparison are read from a key, a sign and the longest run of characters of literals. -/
theorem exists_ofLiteral (h : range? text = some m ∨ compared? text = some m) :
    ∃ key c after r, text = key ++ c.spelling.toList ++ after ∧
      key? text = some (key, c.spelling.toList ++ after) ∧
      comparison? (c.spelling.toList ++ after) = some (c, after) ∧
      m = ofLiteral key c.spelling.toList (after.takeWhile Literal.isLiteralChar) r := by
  rcases h with h | h
  · obtain ⟨key, c, after, _, _, r, htext, -, hkey, hc, -, -, -, hm⟩ := exists_of_range? h
    exact ⟨key, c, after, r, htext, hkey, hc, hm⟩
  · obtain ⟨key, c, after, r, htext, -, hkey, hc, -, hm⟩ := exists_of_compared? h
    exact ⟨key, c, after, r, htext, hkey, hc, hm⟩

/-- A chunk starts with a literal, and goes on where that ends. -/
theorem takeWhile_isWordChar (text : List Char) :
    text.takeWhile isWordChar = text.takeWhile Literal.isLiteralChar ++
      (text.dropWhile Literal.isLiteralChar).takeWhile isWordChar := by
  have hfront : ∀ d ∈ text.takeWhile Literal.isLiteralChar, isWordChar d = true :=
    fun d hd => isWordChar_of_isLiteralChar (List.all_eq_true.mp List.all_takeWhile d hd)
  rw [← List.takeWhile_append_of_pos hfront, List.takeWhile_append_dropWhile]

/-- Where a key stands, no sign is matched. -/
theorem candidates_of_isKey {rest : List Char} (hkey : isKey key = true)
    (hm : at? rules before (key ++ rest) = some m) :
    (range? (key ++ rest) = some m ∨ compared? (key ++ rest) = some m) ∨
      term? rules (key ++ rest) = some m := by
  obtain ⟨hopen, hclose, hnegation⟩ := no_sign_of_isKey hkey before rest
  have hmem := mem_of_longest hm
  simp only [hopen, hclose, hnegation, List.mem_cons, List.not_mem_nil, or_false, reduceCtorEq,
    false_or] at hmem
  rcases hmem with hrange | hcompared | hterm
  · exact .inl (.inl hrange.symm)
  · exact .inl (.inr hcompared.symm)
  · exact .inr hterm.symm

/-- **A chunk is taken as a whole.** What is matched where a key, a colon or equals sign and a character of
literals stand goes on to the end of the run of word characters. -/
theorem exists_at?_chunk (rules : Rules) (before : Option Char) (hkey : isKey key = true)
    (hc : c.isEquality = true) (hafter : after.head?.any Literal.isLiteralChar = true) :
    ∃ m, at? rules before (key ++ c.spelling.toList ++ after) = some m ∧
      m.length = key.length + 1 + (after.takeWhile isWordChar).length := by
  obtain ⟨t, ht, htlength⟩ := exists_term?_chunk rules hkey hc hafter
  obtain ⟨m, hm, hle⟩ := exists_at?_of_term? ht before
  refine ⟨m, hm, ?_⟩
  rw [List.append_assoc] at hm ht
  rcases candidates_of_isKey hkey hm with hliteral | hterm
  · obtain ⟨key', c', after', r, -, hkey', hc', rfl⟩ := exists_ofLiteral hliteral
    obtain ⟨rfl, hsign⟩ : key = key' ∧ c.spelling.toList ++ after = c'.spelling.toList ++ after' := by
      simpa [key?_compared hkey c after] using hkey'
    obtain ⟨rfl, rfl⟩ : c = c' ∧ after = after' := by
      rw [← hsign, comparison?_of_isEquality hc] at hc'
      simpa using hc'
    have hone := length_spelling_of_isEquality hc
    rw [takeWhile_isWordChar, List.length_append] at htlength ⊢
    simp only [ofLiteral] at hle ⊢
    omega
  · rw [ht] at hterm
    rw [← Option.some.inj hterm, htlength]

/-! ## Comparisons -/

/-- Signs stand for no terms. -/
theorem terms_of_sign
    (h : openGroup? before text = some m ∨ closeGroup? text = some m ∨ negation? text = some m) :
    m.reading.terms = [] := by
  rcases h with h | h | h
  · unfold openGroup? at h
    split at h
    · split at h <;> cases h <;> rfl
    · cases h
  · unfold closeGroup? at h
    split at h <;> cases h
    rfl
  · unfold negation? at h
    split at h
    · split at h <;> cases h
      rfl
    · cases h

/-- The term of a value compares nothing. -/
theorem comparison?_of_term? (h : term? rules text = some m) {x : Term} (hx : x ∈ m.reading.terms) :
    x.comparison? = none := by
  have hvalue : ∀ (length : Nat) (key : Option String) (v : Value),
      x ∈ (ofValue length key v).reading.terms → x.comparison? = none := by
    intro length key v hx
    obtain rfl := List.mem_singleton.mp hx
    rfl
  rcases keyed_or_unkeyed h with hkeyed | hunkeyed
  · obtain ⟨⟨key, rest⟩, -, hafter⟩ := Option.bind_eq_some_iff.mp hkeyed
    dsimp only at hafter
    split at hafter
    · obtain ⟨v, -, hm⟩ := Option.bind_eq_some_iff.mp hafter
      obtain rfl := Option.some.inj hm
      exact hvalue _ _ _ hx
    · cases hafter
  · obtain ⟨v, -, hreading⟩ := Option.bind_eq_some_iff.mp hunkeyed
    dsimp only at hreading
    split at hreading
    · obtain rfl := Option.some.inj hreading
      cases hx
    · obtain rfl := Option.some.inj hreading
      exact hvalue _ _ _ hx

/-- Only a range or a comparison stands for a term that compares. -/
theorem literal_of_comparison (hm : at? rules before text = some m) {x : Term}
    (hx : x ∈ m.reading.terms) (hcompares : x.comparison?.isSome = true) :
    range? text = some m ∨ compared? text = some m := by
  have hmem := mem_of_longest hm
  simp only [List.mem_cons, List.not_mem_nil, or_false] at hmem
  have hsign : ¬ (openGroup? before text = some m ∨ closeGroup? text = some m ∨
      negation? text = some m) := by
    intro hsign
    rw [terms_of_sign hsign] at hx
    cases hx
  have hterm : term? rules text ≠ some m := by
    intro hterm
    rw [comparison?_of_term? hterm hx] at hcompares
    cases hcompares
  rcases hmem with hopen | hclose | hnegation | hrange | hcompared | hvalue
  · exact absurd (.inl hopen.symm) hsign
  · exact absurd (.inr (.inl hclose.symm)) hsign
  · exact absurd (.inr (.inr hnegation.symm)) hsign
  · exact .inl hrange.symm
  · exact .inr hcompared.symm
  · exact absurd hvalue.symm hterm

theorem Reading.exists_of_mem_terms {r : Reading} {x : Term} (hx : x ∈ r.terms) :
    ∃ kinds, r = .tokens kinds ∧ .term x ∈ kinds := by
  cases r with
  | malformed => cases hx
  | tokens kinds =>
      obtain ⟨k, hk, hkx⟩ := List.mem_filterMap.mp hx
      cases k with
      | term y =>
          obtain rfl := Option.some.inj hkx
          exact ⟨kinds, rfl, hk⟩
      | _ => cases hkx

/-- A range or comparison is read from a literal, which names its terms. -/
theorem readFrom_of_terms (h : range? text = some m ∨ compared? text = some m) {x : Term}
    (hx : x ∈ m.reading.terms) :
    ∃ key c after, text = key ++ c.spelling.toList ++ after ∧ isKey key = true ∧
      after.head?.any Literal.isLiteralChar = true ∧
      x.ReadFrom key c (after.takeWhile Literal.isLiteralChar) ∧
      m.length = key.length + c.spelling.toList.length +
        (after.takeWhile Literal.isLiteralChar).length := by
  have hstart : ∀ {after : List Char}, after.takeWhile Literal.isLiteralChar ≠ [] →
      after.head?.any Literal.isLiteralChar = true := by
    intro after hne
    cases after with
    | nil => exact absurd rfl hne
    | cons d after =>
        cases hd : Literal.isLiteralChar d with
        | true => exact hd
        | false => simp [hd] at hne
  rcases h with h | h
  · obtain ⟨key, c, after, low, high, r, htext, hkey, -, -, hc, hsplit, hr, rfl⟩ :=
      exists_of_range? h
    obtain ⟨kinds, rfl, hmem⟩ := Reading.exists_of_mem_terms hx
    have hliteral := eq_append_of_splitRange? hsplit
    refine ⟨key, c, after, htext, hkey, hstart (by simp [hliteral]), ?_, rfl⟩
    rw [hliteral]
    exact .range hc hr hmem
  · obtain ⟨key, c, after, r, htext, hkey, -, -, hr, rfl⟩ := exists_of_compared? h
    obtain ⟨kinds, rfl, hmem⟩ := Reading.exists_of_mem_terms hx
    have hliteral := Literal.plain_of_classify (ne_neither_of_comparisonReading? hr)
    exact ⟨key, c, after, htext, hkey, hstart hliteral.2, .comparison hr hmem, rfl⟩

end Match

namespace TokenStream

variable {rules : Rules}

/-- A term that comes out is one of a match at its place. -/
theorem exists_at?_of_mem {text : String} {t : Token} {x : Term}
    (ht : t ∈ (ofText rules text).tokens) (hx : t.kind = .term x) :
    ∃ front after m, text.toList = front ++ after ∧ front.length = t.position ∧
      Match.at? rules front.getLast? after = some m ∧ x ∈ m.reading.terms := by
  obtain ⟨kind, position⟩ := t
  obtain rfl : kind = .term x := hx
  obtain ⟨m, hs, hterm⟩ := exists_found_of_mem ht
  obtain ⟨front, after, htext, hposition, -, hcontent⟩ :=
    (Segment.splits_following rules none 0 text.toList).at_of_mem hs
  rw [Option.or_none] at hcontent
  exact ⟨front, after, m, htext, by simpa using hposition.symm,
    (Segment.at?_of_content hcontent).2, hterm⟩

/-- **Comparisons take whole chunks.** A term that compares is read from the longest run of characters of
literals, and after a colon or equals sign no word character follows that run: there, whatever is matched
takes the whole chunk of word characters. -/
theorem comparisons_whole (rules : Rules) (text : String) :
    (∀ t ∈ (ofText rules text).tokens, ∀ x, t.kind = .term x → x.comparison?.isSome = true →
      ∃ front key c literal rest,
        text.toList = front ++ (key ++ c.spelling.toList ++ literal) ++ rest ∧
          front.length = t.position ∧ x.ReadFrom key c literal ∧
          rest.head?.all (!Literal.isLiteralChar ·) = true ∧
          (c.isEquality = true → rest.head?.all (!Match.isWordChar ·) = true)) ∧
      ∀ (before : Option Char) (key : List Char) (c : Comparison) (after : List Char),
        Match.isKey key = true → c.isEquality = true →
          after.head?.any Literal.isLiteralChar = true →
            ∃ m, Match.at? rules before (key ++ c.spelling.toList ++ after) = some m ∧
              m.length = key.length + 1 + (after.takeWhile Match.isWordChar).length := by
  refine ⟨?_, fun before key c after => Match.exists_at?_chunk rules before⟩
  intro t ht x hx hcompares
  obtain ⟨front, text', m, htext, hposition, hm, hterm⟩ := exists_at?_of_mem ht hx
  obtain ⟨key, c, after, rfl, hkey, hafter, hread, hlength⟩ :=
    Match.readFrom_of_terms (Match.literal_of_comparison hm hterm hcompares) hterm
  refine ⟨front, key, c, _, after.dropWhile Literal.isLiteralChar, ?_, hposition, hread,
    Match.head?_dropWhile_all _ _, ?_⟩
  · simp [htext, List.takeWhile_append_dropWhile]
  · intro hc
    obtain ⟨m', hm', hchunk⟩ := Match.exists_at?_chunk rules front.getLast? hkey hc hafter
    obtain rfl : m' = m := Option.some.inj (hm'.symm.trans hm)
    rw [Match.takeWhile_isWordChar, List.length_append, hlength,
      Match.length_spelling_of_isEquality hc] at hchunk
    have hnone : ((after.dropWhile Literal.isLiteralChar).takeWhile Match.isWordChar).length = 0 := by
      omega
    cases hrest : after.dropWhile Literal.isLiteralChar with
    | nil => rfl
    | cons d rest =>
        cases hd : Match.isWordChar d with
        | false => simp [hd]
        | true => simp [hrest, hd] at hnone

/-- After an equals sign and after a colon. -/
theorem comparisons_whole_chunks :
    let stream := ofText {} "price=5 sku:100abc"
    (∃ t ∈ stream.tokens, ∃ x, t.kind = .term x ∧ x.comparison?.isSome = true ∧
      ∃ front key c literal rest,
        "price=5 sku:100abc".toList = front ++ (key ++ c.spelling.toList ++ literal) ++ rest ∧
          front.length = t.position ∧ x.ReadFrom key c literal ∧
          rest.head?.all (!Literal.isLiteralChar ·) = true ∧
          (c.isEquality = true → rest.head?.all (!Match.isWordChar ·) = true)) ∧
      ∃ m, Match.at? {} (some ' ') "sku:100abc".toList = some m ∧ m.length = 10 := by
  have hwhole := comparisons_whole {} "price=5 sku:100abc"
  refine ⟨?_, ?_⟩
  · have hmem : (⟨.term (.number "price" .equal (.ofNat 5)), 0⟩ : Token) ∈
        (ofText {} "price=5 sku:100abc").tokens := by decide +kernel
    exact ⟨_, hmem, _, rfl, rfl, hwhole.1 _ hmem _ rfl rfl⟩
  · exact hwhole.2 (some ' ') "sku".toList .colon "100abc".toList (by decide +kernel) rfl rfl

/-- After an angle, the rest of a chunk is left to be a term of its own. -/
theorem comparisons_split :
    (ofText {} "price>100abc").tokens =
        [⟨.term (.number "price" .greater (.ofNat 100)), 0⟩, ⟨.term (.text none .word "abc"), 9⟩] ∧
      "price>100".toList ++ ['a', 'b', 'c'] = "price>100abc".toList ∧
        Match.isWordChar 'a' = true := by
  decide +kernel

end TokenStream

end RecordQuery
