import RecordQuery.Proofs.Query.Locality

/-!
# Values that are not closed

A quote that no other quote closes starts no match, so it is skipped. A slash that no other slash closes
starts a word, and the word is all that can tell later that a slash further on would close it. Whatever
else is matched is settled: no text that follows changes it.
-/

namespace RecordQuery

/-- A word that starts with a slash and holds no other. -/
def Term.isOpenSlash : Term → Bool
  | .text _ .word s =>
    match s.toList with
    | '/' :: rest => !rest.contains '/'
    | _ => false
  | _ => false

namespace Match

variable {rules : Rules} {before : Option Char} {text rest : List Char}

/-! ## Closed values -/

theorem phrase?_append_of_some {v : Value} (h : phrase? text = some v) (rest : List Char) :
    phrase? (text ++ rest) = some v := by
  obtain ⟨s, after, rfl, hs, rfl⟩ := phrase?_eq_some_iff.mp h
  exact phrase?_eq_some_iff.mpr ⟨s, after ++ rest, by simp, hs, rfl⟩

theorem regexBody?_append_of_some {body : List Char} (h : regexBody? text = some body)
    (rest : List Char) : regexBody? (text ++ rest) = some body := by
  obtain ⟨hbody, after, rfl⟩ := regexBody?_eq_some_iff.mp h
  exact regexBody?_eq_some_iff.mpr ⟨hbody, after ++ rest, by simp⟩

/-- Text without a slash closes nothing. -/
theorem regexBody?_append_of_none (h : regexBody? text = none) (hrest : '/' ∉ rest) :
    regexBody? (text ++ rest) = none := by
  cases hbody : regexBody? (text ++ rest) with
  | none => rfl
  | some body =>
      obtain ⟨hshape, after, heq⟩ := regexBody?_eq_some_iff.mp hbody
      have hclosed : ∃ after', text = body ++ '/' :: after' := by
        rcases List.append_eq_append_iff.mp heq with ⟨tail, rfl, hafter⟩ | ⟨tail, rfl, hafter⟩
        · simp [hafter] at hrest
        · cases tail with
          | nil => simp [← show '/' :: after = rest from hafter] at hrest
          | cons c tail =>
              obtain ⟨rfl, -⟩ := List.cons_eq_cons.mp hafter
              exact ⟨tail, rfl⟩
      rw [regexBody?_eq_some_iff.mpr ⟨hshape, hclosed⟩] at h
      cases h

/-- A text is settled if the quote that it starts with is closed, and so is the slash unless there is
none in the rest. -/
theorem Settled.of_closed (hrest : StartsWithStop rest)
    (hquote : ∀ after, text = '"' :: after → '"' ∈ after)
    (hslash : ∀ after, text = '/' :: after → regexBody? after = none → '/' ∉ rest) :
    Settled text rest := by
  cases text with
  | nil =>
      have hapart : Apart [] rest := by simp [Apart]
      exact (hapart.settledAt hrest).unkeyed
  | cons c text =>
      constructor
      · by_cases hc : c = '"'
        · subst hc
          have hclosed : phrase? ('"' :: text) = some ⟨.phrase, text.takeWhile (· != '"')⟩ := by
            simp [phrase?, hquote text rfl]
          rw [hclosed, phrase?_append_of_some hclosed]
        · simp [phrase?, hc]
      · by_cases hc : c = '/'
        · subst hc
          rw [List.cons_append, regex?, regex?]
          cases hbody : regexBody? text with
          | none => rw [regexBody?_append_of_none hbody (hslash text rfl hbody)]
          | some body => rw [regexBody?_append_of_some hbody]
        · simp [regex?, hc]

/-! ## A quote that is not closed -/

theorem value?_openQuote (h : '"' ∉ text) : value? ('"' :: text) = none := by
  have hphrase : phrase? ('"' :: text) = none := by simp [phrase?, h]
  have hregex : regex? ('"' :: text) = none := by simp [regex?]
  have hword : word? ('"' :: text) = none := by simp [word?, isWordChar]
  rw [value?, hphrase, hregex, hword]
  rfl

theorem at?_openQuote (h : '"' ∉ text) : at? rules before ('"' :: text) = none := by
  obtain ⟨hopen, hclose, hnegation⟩ := no_sign (c := '"') (by decide) (by decide) (by decide)
    (by decide) before text
  obtain ⟨hrange, hcompared, hkeyed⟩ :=
    none_of_key?_eq_none (key?_cons_eq_none (c := '"') (by decide) text)
  have hterm : term? rules ('"' :: text) = none := by
    simp [term?, hkeyed, unkeyed?, value?_openQuote h]
  rw [at?, hopen, hclose, hnegation, hrange, hcompared, hterm]
  rfl

theorem isWordStart_of_isKeyStart {c : Char} (h : isKeyStart c = true) : isWordStart c = true := by
  have hne : ∀ d, isKeyStart d = false → (c == d) = false := by
    intro d hd
    rw [beq_eq_false_iff_ne]
    rintro rfl
    simp [h] at hd
  simp [isWordStart, isWordChar_of_isKeyChar (isKeyChar_of_isKeyStart h), hne '&' (by decide),
    hne '|' (by decide), hne '-' (by decide), hne '!' (by decide), hne '"' (by decide),
    hne '/' (by decide)]

/-- A value without a key is as long as its match, whether it is a joiner or a term. -/
theorem length_unkeyed? {v : Value} {m : Match} (hv : value? text = some v)
    (h : unkeyed? rules text = some m) : m.length = v.length := by
  rw [unkeyed?, hv] at h
  simp only [Option.bind_eq_bind, Option.bind_some] at h
  split at h
  · obtain rfl := Option.some.inj h
    rfl
  · obtain rfl := Option.some.inj h
    rfl

/-- After a key, it leaves the key and the colon to be a word. -/
theorem length_at?_keyed_openQuote {key : List Char} (hkey : isKey key = true) (h : '"' ∉ text)
    {m : Match} (hm : at? rules before (key ++ ':' :: '"' :: text) = some m) :
    m.length = key.length + 1 := by
  obtain ⟨hopen, hclose, hnegation⟩ := no_sign_of_isKey hkey before (':' :: '"' :: text)
  obtain ⟨hrange, hcompared⟩ := no_literal_after_colon hkey ('"' :: text)
    (List.takeWhile_cons_of_neg (by decide))
  have hkeyed : keyed? (key ++ ':' :: '"' :: text) = none := by
    simp [keyed?, key?_colon hkey, value?_openQuote h]
  -- No value begins at the quote, so no key stands before it: the colon is one more word character.
  have hvalue : value? (key ++ ':' :: '"' :: text) = some ⟨.word, key ++ [':']⟩ := by
    cases key with
    | nil => simp [isKey] at hkey
    | cons c key =>
        obtain ⟨hstart, hrest⟩ := Bool.and_eq_true_iff.mp hkey
        have hrun : ∀ d ∈ key ++ [':'], isWordChar d = true := by
          intro d hd
          rcases List.mem_append.mp hd with hd | hd
          · exact isWordChar_of_isKeyChar (List.all_eq_true.mp hrest d hd)
          · obtain rfl := List.mem_singleton.mp hd
            decide
        have hstop : ('"' :: text).head?.all (!isWordChar ·) = true := by
          show (!isWordChar '"') = true
          decide
        have hword := value?_word (isWordStart_of_isKeyStart hstart) hrun hstop
        simpa using hword
  have hterm : term? rules (key ++ ':' :: '"' :: text) = some m := by
    rw [at?, hopen, hclose, hnegation, hrange, hcompared] at hm
    cases hterm : term? rules (key ++ ':' :: '"' :: text) with
    | none => simp [hterm, longest] at hm
    | some m' => simpa [hterm, longest] using hm
  have hterm : unkeyed? rules (key ++ ':' :: '"' :: text) = some m := by simpa [term?, hkeyed] using hterm
  rw [length_unkeyed? hvalue hterm]
  simp [Value.length]

/-! ## A slash that is not closed -/

theorem isRegexBody_of_plain {body : List Char} (h : ∀ c ∈ body, c ≠ '/' ∧ c ≠ '\\') :
    isRegexBody body = true := by
  induction body with
  | nil => rfl
  | cons c body ih =>
      obtain ⟨⟨hslash, hescape⟩, hbody⟩ := List.forall_mem_cons.mp h
      simp [isRegexBody, hslash, hescape, ih hbody]

/-- There is no slash in the rest of the word that it starts. -/
theorem slash_notMem_of_open (h : regexBody? text = none) : '/' ∉ text.takeWhile isWordChar := by
  intro hmem
  obtain ⟨body, after, heq, hbody⟩ := List.eq_append_cons_of_mem hmem
  have hplain : ∀ c ∈ body, c ≠ '/' ∧ c ≠ '\\' := by
    intro c hc
    refine ⟨?_, ?_⟩
    · rintro rfl
      exact hbody hc
    · rintro rfl
      have hword : isWordChar '\\' = true := List.all_eq_true.mp List.all_takeWhile '\\'
        (heq ▸ List.mem_append_left _ hc)
      revert hword
      decide
  have htext : text = body ++ '/' :: (after ++ text.dropWhile isWordChar) := by
    rw [← List.cons_append, ← List.append_assoc, ← heq, List.takeWhile_append_dropWhile]
  rw [regexBody?_eq_some_iff.mpr ⟨isRegexBody_of_plain hplain, _, htext⟩] at h
  cases h

theorem value?_openSlash (h : regexBody? text = none) :
    value? ('/' :: text) = some ⟨.word, '/' :: text.takeWhile isWordChar⟩ := by
  have hphrase : phrase? ('/' :: text) = none := by simp [phrase?]
  have hregex : regex? ('/' :: text) = none := by simp [regex?, h]
  have hword : word? ('/' :: text) = some ⟨.word, '/' :: text.takeWhile isWordChar⟩ := by
    simp [word?, isWordChar, show Text.isBlank '/' = false by decide]
  rw [value?, hphrase, hregex, hword]
  rfl

theorem isOpenSlash_of_open (h : regexBody? text = none) (key : Option String) :
    (Term.text key .word (String.ofList ('/' :: text.takeWhile isWordChar))).isOpenSlash = true := by
  have hnone := slash_notMem_of_open h
  simpa [Term.isOpenSlash] using hnone

theorem at?_openSlash (h : regexBody? text = none) :
    at? rules before ('/' :: text) =
      some (ofValue (text.takeWhile isWordChar).length.succ rules.defaultKey
        ⟨.word, '/' :: text.takeWhile isWordChar⟩) := by
  obtain ⟨hopen, hclose, hnegation⟩ := no_sign (c := '/') (by decide) (by decide) (by decide)
    (by decide) before text
  obtain ⟨hrange, hcompared, hkeyed⟩ :=
    none_of_key?_eq_none (key?_cons_eq_none (c := '/') (by decide) text)
  have hjoiner : Joiner.ofWord? (String.ofList ('/' :: text.takeWhile isWordChar)) = none := by
    simp [Joiner.ofWord?]
  have hterm : term? rules ('/' :: text) = some (ofValue (text.takeWhile isWordChar).length.succ
      rules.defaultKey ⟨.word, '/' :: text.takeWhile isWordChar⟩) := by
    rw [term?, hkeyed, unkeyed?, value?_openSlash h]
    simp only [Option.bind_eq_bind, Option.bind_some, if_true, hjoiner]
    rfl
  rw [at?, hopen, hclose, hnegation, hrange, hcompared, hterm]
  rfl

theorem at?_keyed_openSlash {key : List Char} (hkey : isKey key = true) (h : regexBody? text = none) :
    at? rules before (key ++ ':' :: '/' :: text) =
      some (ofValue (key.length + 1 + (text.takeWhile isWordChar).length.succ)
        (some (String.ofList key)) ⟨.word, '/' :: text.takeWhile isWordChar⟩) := by
  obtain ⟨hopen, hclose, hnegation⟩ := no_sign_of_isKey hkey before (':' :: '/' :: text)
  obtain ⟨hrange, hcompared⟩ := no_literal_after_colon hkey ('/' :: text)
    (List.takeWhile_cons_of_neg (by decide))
  have hterm : term? rules (key ++ ':' :: '/' :: text) =
      some (ofValue (key.length + 1 + (text.takeWhile isWordChar).length.succ)
        (some (String.ofList key)) ⟨.word, '/' :: text.takeWhile isWordChar⟩) := by
    simp [term?, keyed?, key?_colon hkey, value?_openSlash h, Value.length]
  rw [at?, hopen, hclose, hnegation, hrange, hcompared, hterm]
  rfl

/-! ## Texts that are settled -/

/-- A text is settled if no open quote starts it, by itself or after a key, and if what is matched in it is
no open slash, unless there is none in the rest. -/
theorem settledAt_of_closed (rules : Rules) (before : Option Char) (hrest : StartsWithStop rest)
    (hquote : ∀ tail, text = '"' :: tail → '"' ∈ tail)
    (hkeyed : ∀ key tail, isKey key = true → text = key ++ ':' :: '"' :: tail → '"' ∈ tail)
    (hslash : ∀ m ∈ at? rules before text, ∀ x ∈ m.reading.terms, x.isOpenSlash = true → '/' ∉ rest) :
    SettledAt text rest := by
  refine ⟨.of_closed hrest hquote ?_, ?_⟩
  · rintro tail rfl hopen
    exact hslash _ (at?_openSlash hopen) _ (List.mem_singleton_self _) (isOpenSlash_of_open hopen _)
  · intro key value hkey
    obtain ⟨rfl, hshape, -⟩ := key?_eq_some_iff.mp hkey
    refine .of_closed hrest ?_ ?_
    · rintro tail rfl
      exact hkeyed key tail hshape rfl
    · rintro tail rfl hopen
      exact hslash _ (at?_keyed_openSlash hshape hopen) _ (List.mem_singleton_self _)
        (isOpenSlash_of_open hopen _)

/-- **Matches are settled.** What is matched in front of a text that starts with no open quote is settled,
unless it is a word with an open slash and there is a slash in the rest. -/
theorem settledAt_of_at? {m : Match} {piece after : List Char} (hrest : StartsWithStop rest)
    (hm : at? rules before (piece ++ after) = some m) (hlength : piece.length = m.length)
    (hquote : ∀ tail, after = '"' :: tail → '"' ∈ tail)
    (hslash : ∀ x ∈ m.reading.terms, x.isOpenSlash = true → '/' ∉ rest) :
    SettledAt (piece ++ after) rest := by
  refine settledAt_of_closed rules before hrest ?_ ?_ (by simpa [hm] using hslash)
  · intro tail htext
    by_contra hopen
    rw [htext, at?_openQuote hopen] at hm
    cases hm
  · intro key tail hkey htext
    by_contra hopen
    rw [htext] at hm
    have hpiece : piece.length = (key ++ [':']).length := by
      rw [hlength, length_at?_keyed_openQuote hkey hopen hm, List.length_append,
        List.length_singleton]
    have hsplit : piece ++ after = (key ++ [':']) ++ '"' :: tail := by simpa using htext
    exact hopen (hquote tail (List.append_inj hsplit hpiece).2)

end Match

end RecordQuery
