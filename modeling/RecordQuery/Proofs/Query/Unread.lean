import RecordQuery.Proofs.Query.Unclosed

/-!
# Text that cannot be read

Nothing is matched at a place in three cases only: a character stands there that belongs to no term, a
quote that no other follows, or the start of a group behind a character that no group may follow. The
kinds of match cover all other text between them, whatever goes before and comes after.
-/

namespace RecordQuery.Match

variable {rules : Rules} {before : Option Char} {c : Char} {text : List Char}

/-- The marks that start nothing. -/
def strays : List Char := ['~', '^', '\x7b', '\x7d', '[', ']', ';', '\\', '\x60', '<', '>']

/-- Text at the start of which nothing can be read, behind the character that stands in front. -/
inductive Unread : (before : Option Char) → List Char → Prop
  | stray {before : Option Char} {c : Char} {rest : List Char} (hc : c ∈ strays) :
      Unread before (c :: rest)
  | quote {before : Option Char} {rest : List Char} (hrest : '"' ∉ rest) :
      Unread before ('"' :: rest)
  | group {d : Char} {rest : List Char} (hd : isBoundary d = false) : Unread (some d) ('(' :: rest)
  | negatedGroup {c d : Char} {rest : List Char} (hc : c = '-' ∨ c = '!')
      (hd : isBoundary d = false) : Unread (some d) (c :: '(' :: rest)

/-! ## Where nothing is matched -/

/-- Without a sign, a key or a value nothing is matched. -/
theorem at?_eq_none (hsign : openGroup? before text = none ∧ closeGroup? text = none ∧
      negation? text = none)
    (hterm : range? text = none ∧ compared? text = none ∧ term? rules text = none) :
    at? rules before text = none := by
  rw [at?, hsign.1, hsign.2.1, hsign.2.2, hterm.1, hterm.2.1, hterm.2.2]
  rfl

/-- Inside a word no group starts. -/
theorem openGroup?_eq_none {d : Char} (hd : isBoundary d = false) (text : List Char) :
    openGroup? (some d) text = none :=
  if_neg (by simpa [isBoundary] using hd)

theorem strays_start (hc : c ∈ strays) : (c ≠ '(' ∧ c ≠ ')' ∧ c ≠ '-' ∧ c ≠ '!') ∧
    c ≠ '"' ∧ c ≠ '/' ∧ c ≠ '&' ∧ c ≠ '|' ∧ isWordChar c = false ∧ Text.isBlank c = false := by
  have hne : ∀ d, d ∉ strays → c ≠ d := fun d hd => ne_of_mem_of_not_mem hc hd
  have hword : isWordChar c = false ∧ Text.isBlank c = false := by
    have hall : strays.all (fun c => !isWordChar c && !Text.isBlank c) = true := by decide
    simpa using List.all_eq_true.mp hall c hc
  exact ⟨⟨hne '(' (by decide), hne ')' (by decide), hne '-' (by decide), hne '!' (by decide)⟩,
    hne '"' (by decide), hne '/' (by decide), hne '&' (by decide), hne '|' (by decide), hword⟩

/-- What starts a key is a character of words. -/
theorem isKeyStart_eq_false (hc : isWordChar c = false) : isKeyStart c = false := by
  cases hkey : isKeyStart c with
  | false => rfl
  | true => rw [isWordChar_of_isKeyChar (isKeyChar_of_isKeyStart hkey)] at hc; cases hc

theorem Unread.at?_eq_none (h : Unread before text) : at? rules before text = none := by
  cases h with
  | @stray before c rest hc =>
      obtain ⟨⟨hopen, hclose, hhyphen, hmark⟩, hquote, hslash, hand, hor, hword, -⟩ := strays_start hc
      have hnoword : word? (c :: rest) = none := by simp [word?, hand, hor, hword]
      exact Match.at?_eq_none (no_sign hopen hclose hhyphen hmark _ _)
        (no_term (isKeyStart_eq_false hword) hquote hslash hnoword rules)
  | quote hrest => exact at?_openQuote hrest
  | @group d rest hd =>
      have hword : word? ('(' :: rest) = none := by simp [word?, isWordChar]
      exact Match.at?_eq_none ⟨openGroup?_eq_none hd _, rfl, by simp [negation?]⟩
        (no_term (by decide) (by decide) (by decide) hword rules)
  | @negatedGroup c d rest hc hd =>
      obtain ⟨hrange, hcompared, hterm, hclose⟩ := no_term_of_mark hc ('(' :: rest) rules
      exact Match.at?_eq_none ⟨openGroup?_eq_none hd _, hclose, by simp [negation?]⟩
        ⟨hrange, hcompared, hterm⟩

/-- It does not start with a blank. -/
theorem Unread.head?_isBlank (h : Unread before text) : text.head?.any Text.isBlank = false := by
  cases h with
  | stray hc =>
      obtain ⟨-, -, -, -, -, -, hblank⟩ := strays_start hc
      exact hblank
  | quote _ | group _ => rfl
  | negatedGroup hc _ => rcases hc with rfl | rfl <;> rfl

/-! ## Where something is matched -/

/-- A value without a key makes a match. -/
theorem exists_unkeyed? (rules : Rules) {v : Value} (hv : value? text = some v) :
    ∃ m, unkeyed? rules text = some m ∧ m.length = v.length := by
  cases hm : unkeyed? rules text with
  | some m => exact ⟨m, rfl, length_unkeyed? hv hm⟩
  | none =>
      rw [unkeyed?, hv] at hm
      simp only [Option.bind_eq_bind, Option.bind_some] at hm
      split at hm <;> cases hm

/-- Whatever is matched where a term is, it is no shorter than that. -/
theorem exists_at?_of_term? {t : Match} (h : term? rules text = some t) (before : Option Char) :
    ∃ m, at? rules before text = some m ∧ t.length ≤ m.length :=
  exists_longest (by simp [← h])

/-- Where a phrase or a word stands, it is matched, or something else is. -/
theorem exists_at? {v : Value} (h : phrase? text = some v ∨ word? text = some v) (rules : Rules)
    (before : Option Char) : ∃ m, at? rules before text = some m := by
  obtain ⟨v', hv', -⟩ : ∃ v', value? text = some v' ∧ v.length ≤ v'.length :=
    exists_longest (by rcases h with h | h <;> simp [h])
  obtain ⟨t, ht⟩ : ∃ t, term? rules text = some t := by
    cases hkeyed : keyed? text with
    | some t => exact ⟨t, by rw [term?, hkeyed]; rfl⟩
    | none =>
        obtain ⟨t, ht, -⟩ := exists_unkeyed? rules hv'
        exact ⟨t, by rw [term?, hkeyed, ht]; rfl⟩
  obtain ⟨m, hm, -⟩ := exists_at?_of_term? ht before
  exact ⟨m, hm⟩

/-- Characters of words that are no signs start a word, and so do those that stand alone. -/
theorem exists_word? (hc : isWordChar c = true ∧ c ≠ '-' ∧ c ≠ '!' ∨ c = '&' ∨ c = '|')
    (text : List Char) : ∃ v, word? (c :: text) = some v := by
  by_cases halone : c = '&' ∨ c = '|'
  · exact ⟨⟨.word, [c]⟩, by simp [word?, halone]⟩
  · obtain ⟨hword, hhyphen, hmark⟩ := hc.resolve_right halone
    exact ⟨⟨.word, c :: text.takeWhile isWordChar⟩, by simp [word?, halone, hword, hhyphen, hmark]⟩

/-- A mark that starts something is a sign, a quote, or stands alone. -/
theorem marks_cases (hc : c ∈ marks) :
    c ∈ strays ∨ c = '(' ∨ c = ')' ∨ c = '"' ∨ c = '&' ∨ c = '|' := by
  have hall : marks.all (fun c => strays.contains c || c == '(' || c == ')' || c == '"' || c == '&' ||
      c == '|') = true := by decide
  simpa [or_assoc] using List.all_eq_true.mp hall c hc

/-- Where no group may start, a character stands in front that none may follow. -/
theorem exists_of_inside (h : before.all isBoundary = false) :
    ∃ d, before = some d ∧ isBoundary d = false := by
  cases before with
  | none => cases h
  | some d => exact ⟨d, rfl, h⟩

/-- **Unread text.** At a character that is no blank, nothing is matched exactly where the text starts with
a stray mark, an unclosed quote or a group inside a word. -/
theorem at?_eq_none_iff (hc : Text.isBlank c = false) :
    at? rules before (c :: text) = none ↔ Unread before (c :: text) := by
  refine ⟨?_, fun h => h.at?_eq_none⟩
  intro hnone
  have hunread : ∀ m, at? rules before (c :: text) ≠ some m := by simp [hnone]
  have hvalue : ∀ v, ¬ (phrase? (c :: text) = some v ∨ word? (c :: text) = some v) := by
    intro v hv
    obtain ⟨m, hm⟩ := exists_at? hv rules before
    exact hunread m hm
  have hword : ¬ (isWordChar c = true ∧ c ≠ '-' ∧ c ≠ '!' ∨ c = '&' ∨ c = '|') := by
    intro hword
    obtain ⟨v, hv⟩ := exists_word? hword text
    exact hvalue v (.inr hv)
  by_cases hsign : c = '-' ∨ c = '!'
  · -- A sign is read as a negation, unless a parenthesis follows it.
    by_cases hgroup : text.head? = some '('
    · obtain ⟨rest, rfl⟩ := List.head?_eq_some_iff.mp hgroup
      cases hbefore : before.all isBoundary with
      | true => exact absurd (at?_negatedGroup hsign hbefore rest) (hunread _)
      | false =>
          obtain ⟨d, rfl, hd⟩ := exists_of_inside hbefore
          exact .negatedGroup hsign hd
    · exact absurd (at?_negation hsign hgroup) (hunread _)
  · have hmarks : c ∈ marks := by
      by_contra hmarks
      exact hword (.inl ⟨isWordChar_iff.mpr ⟨hc, hmarks⟩, not_or.mp hsign⟩)
    rcases marks_cases hmarks with hstray | rfl | rfl | rfl | halone
    · exact .stray hstray
    · cases hbefore : before.all isBoundary with
      | true => exact absurd (at?_openGroup hbefore text) (hunread _)
      | false =>
          obtain ⟨d, rfl, hd⟩ := exists_of_inside hbefore
          exact .group hd
    · exact absurd (at?_closeGroup text) (hunread _)
    · refine .quote ?_
      intro hquote
      exact hvalue ⟨.phrase, text.takeWhile (· != '"')⟩ (.inl (by simp [phrase?, hquote]))
    · exact absurd (.inr halone) hword

/-! ## What mends it -/

/-- A quote at the end closes the one that no other followed. -/
theorem at?_closedQuote {rest : List Char} (hrest : '"' ∉ rest) :
    at? rules before ('"' :: rest ++ ['"']) =
      some (ofValue (rest.length + 2) rules.defaultKey ⟨.phrase, rest⟩) := by
  have hphrase : (⟨.phrase, rest⟩ : Value).isDelimited = true := by simp [Value.isDelimited, hrest]
  have hend : ([] : List Char).head?.all (!isWordChar ·) = true := rfl
  have hread : at? rules before _ = _ := at?_unkeyed hphrase hend
  rwa [List.append_nil] at hread

end RecordQuery.Match
