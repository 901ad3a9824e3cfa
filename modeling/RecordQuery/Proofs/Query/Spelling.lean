import RecordQuery.Query.Match

/-!
# Spellings of keys and values

The texts that a query writes for keys, comparisons and values, and what the scanners of these parts
read. Each scanner takes a prefix of its text that is such a spelling, and leaves the rest.
-/

namespace RecordQuery

/-- Text between the delimiters of its form. -/
def Form.enclose : Form → List Char → List Char
  | .word, s => s
  | .phrase, s => '"' :: (s ++ ['"'])
  | .regex, s => '/' :: (s ++ ['/'])

namespace Match

/-! ## Runs -/

theorem head?_dropWhile_all (p : Char → Bool) (text : List Char) :
    (text.dropWhile p).head?.all (!p ·) = true := by
  have h := List.head?_dropWhile_not p text
  cases hd : (text.dropWhile p).head? with
  | none => rfl
  | some c =>
      rw [hd] at h
      simpa using h

/-- A run ends where the rest starts with a character outside of it. -/
theorem takeWhile_append_of_stop {p : Char → Bool} {run rest : List Char}
    (hrun : ∀ c ∈ run, p c = true) (hrest : rest.head?.all (!p ·) = true) :
    (run ++ rest).takeWhile p = run ∧ (run ++ rest).dropWhile p = rest := by
  have hstop : rest.takeWhile p = [] ∧ rest.dropWhile p = rest := by
    cases rest with
    | nil => exact ⟨rfl, rfl⟩
    | cons c rest =>
        have hc : p c = false := by simpa using hrest
        simp [hc]
  rw [List.takeWhile_append_of_pos hrun, List.dropWhile_append_of_pos hrun, hstop.1, hstop.2]
  simp

/-- No run reaches past a character that stops it. -/
theorem length_takeWhile_append_le {p : Char → Bool} (piece : List Char) {rest : List Char}
    (hrest : rest.head?.all (!p ·) = true) :
    ((piece ++ rest).takeWhile p).length ≤ piece.length := by
  induction piece with
  | nil =>
      have hnil : ([] ++ rest).takeWhile p = [] := (takeWhile_append_of_stop (by simp) hrest).1
      exact Nat.le_of_eq (congrArg List.length hnil)
  | cons c piece ih =>
      rw [List.cons_append, List.takeWhile_cons]
      split
      · simpa using ih
      · simp

/-! ## Keys -/

/-- A letter, number or underscore, then more of these, points and hyphens. -/
def isKey : List Char → Bool
  | c :: rest => isKeyStart c && rest.all isKeyChar
  | [] => false

/-- The key scanner takes the longest key. -/
theorem key?_eq_some_iff {text key rest : List Char} :
    key? text = some (key, rest) ↔
      text = key ++ rest ∧ isKey key = true ∧ rest.head?.all (!isKeyChar ·) = true := by
  constructor
  · intro h
    cases text with
    | nil => simp [key?] at h
    | cons c text =>
        rw [key?] at h
        split at h
        · next hc =>
            obtain ⟨rfl, rfl⟩ : c :: text.takeWhile isKeyChar = key ∧
                text.dropWhile isKeyChar = rest := by simpa using h
            refine ⟨?_, ?_, head?_dropWhile_all _ _⟩
            · rw [List.cons_append, List.takeWhile_append_dropWhile]
            · simp [isKey, hc]
        · simp at h
  · rintro ⟨rfl, hkey, hrest⟩
    cases key with
    | nil => simp [isKey] at hkey
    | cons c key =>
        simp only [isKey, Bool.and_eq_true, List.all_eq_true] at hkey
        obtain ⟨htake, hdrop⟩ := takeWhile_append_of_stop hkey.2 hrest
        rw [List.cons_append, key?, if_pos hkey.1, htake, hdrop]

theorem key?_cons_eq_none {c : Char} (h : isKeyStart c = false) (text : List Char) :
    key? (c :: text) = none := by
  simp [key?, h]

theorem ne_nil_of_isKey {key : List Char} (h : isKey key = true) : key ≠ [] := by
  rintro rfl
  simp [isKey] at h

/-- The comparison scanner takes a comparison as it is spelled. -/
theorem eq_append_of_comparison? {text rest : List Char} {c : Comparison}
    (h : comparison? text = some (c, rest)) : text = c.spelling.toList ++ rest := by
  unfold comparison? at h
  split at h <;> simp only [Option.some.injEq, Prod.mk.injEq, reduceCtorEq] at h <;>
    obtain ⟨rfl, rfl⟩ := h <;> rfl

/-- A colon is one character, and so is an equals sign. -/
theorem length_spelling_of_isEquality {c : Comparison} (hc : c.isEquality = true) :
    c.spelling.toList.length = 1 := by
  cases c with
  | colon | equal => rfl
  | greater | less | atLeast | atMost => cases hc

/-- Whatever follows it, it is read by itself. -/
theorem comparison?_of_isEquality {c : Comparison} (hc : c.isEquality = true) (rest : List Char) :
    comparison? (c.spelling.toList ++ rest) = some (c, rest) := by
  cases c with
  | colon | equal => rfl
  | greater | less | atLeast | atMost => cases hc

/-! ## Values -/

/-- The text of a value with its delimiters. -/
def Value.spelled (v : Value) : List Char := v.form.enclose v.text

@[simp] theorem Value.length_spelled (v : Value) : v.spelled.length = v.length := by
  obtain ⟨form, text⟩ := v
  cases form <;> simp [spelled, Form.enclose, Value.length]

/-- The phrase scanner takes text without a quote up to the next one. -/
theorem phrase?_eq_some_iff {text : List Char} {v : Value} :
    phrase? text = some v ↔
      ∃ s rest, text = '"' :: (s ++ '"' :: rest) ∧ '"' ∉ s ∧ v = ⟨.phrase, s⟩ := by
  have hscan : ∀ s rest : List Char, '"' ∉ s →
      phrase? ('"' :: (s ++ '"' :: rest)) = some ⟨.phrase, s⟩ := by
    intro s rest hs
    have hrun : ∀ c ∈ s, (c != '"') = true := by
      intro c hc
      simp only [bne_iff_ne]
      rintro rfl
      exact hs hc
    have htake : (s ++ '"' :: rest).takeWhile (· != '"') = s :=
      (takeWhile_append_of_stop hrun (by simp)).1
    simp [phrase?, htake]
  constructor
  · intro h
    unfold phrase? at h
    split at h
    · next rest =>
        split at h
        · next hmem =>
            have hquote : '"' ∈ rest := by simpa using hmem
            obtain ⟨s, after, rfl, hs⟩ := List.eq_append_cons_of_mem hquote
            have hv := hscan s after hs
            simp only [phrase?, if_pos hmem] at hv
            exact ⟨s, after, rfl, hs, (Option.some.inj (hv.symm.trans h)).symm⟩
        · simp at h
    · simp at h
  · rintro ⟨s, rest, rfl, hs, rfl⟩
    exact hscan s rest hs

/-- Characters other than the slash and the backslash, and pairs that a backslash starts. -/
def isRegexBody : List Char → Bool
  | [] => true
  | '\\' :: _ :: rest => isRegexBody rest
  | c :: rest => c != '/' && c != '\\' && isRegexBody rest

/-- The regex scanner takes a body and the slash after it. -/
theorem regexBody?_eq_some_iff {text body : List Char} :
    regexBody? text = some body ↔
      isRegexBody body = true ∧ ∃ rest, text = body ++ '/' :: rest := by
  constructor
  · intro h
    fun_induction regexBody? text generalizing body with
    | case1 c rest ih =>
        obtain ⟨s, hs, rfl⟩ := Option.map_eq_some_iff.mp h
        obtain ⟨hbody, after, rfl⟩ := ih hs
        exact ⟨by simpa [isRegexBody] using hbody, after, rfl⟩
    | case2 => simp at h
    | case3 rest =>
        obtain rfl : [] = body := by simpa using h
        exact ⟨rfl, rest, rfl⟩
    | case4 c rest hpair hlone hslash ih =>
        obtain ⟨s, hs, rfl⟩ := Option.map_eq_some_iff.mp h
        obtain ⟨hbody, after, rfl⟩ := ih hs
        have hescape : c ≠ '\\' := by
          rintro rfl
          obtain ⟨d, tail, htail⟩ := List.exists_cons_of_ne_nil (l := s ++ '/' :: after) (by simp)
          exact hpair d tail rfl htail
        have hclose : c ≠ '/' := hslash
        refine ⟨?_, after, rfl⟩
        simp [isRegexBody, hescape, hclose, hbody]
    | case5 => simp at h
  · rintro ⟨hbody, rest, rfl⟩
    fun_induction isRegexBody body with
    | case1 => simp [regexBody?]
    | case2 c body ih => simp [regexBody?, ih hbody]
    | case3 c body hpair ih =>
        simp only [Bool.and_eq_true, bne_iff_ne] at hbody
        obtain ⟨⟨hclose, hescape⟩, hbody⟩ := hbody
        simp [regexBody?, hescape, ih hbody]

theorem regex?_eq_some_iff {text : List Char} {v : Value} :
    regex? text = some v ↔
      ∃ body rest, text = '/' :: (body ++ '/' :: rest) ∧ isRegexBody body = true ∧
        v = ⟨.regex, body⟩ := by
  constructor
  · intro h
    unfold regex? at h
    split at h
    · obtain ⟨body, hbody, rfl⟩ := Option.map_eq_some_iff.mp h
      obtain ⟨hshape, rest, rfl⟩ := regexBody?_eq_some_iff.mp hbody
      exact ⟨body, rest, rfl, hshape, rfl⟩
    · simp at h
  · rintro ⟨body, rest, rfl, hbody, rfl⟩
    rw [regex?, regexBody?_eq_some_iff.mpr ⟨hbody, rest, rfl⟩]
    rfl

/-- The word scanner takes a prefix that is not empty. -/
theorem eq_append_of_word? {text : List Char} {v : Value} (h : word? text = some v) :
    v.form = .word ∧ v.text ≠ [] ∧ ∃ rest, text = v.text ++ rest := by
  unfold word? at h
  split at h
  · next c rest =>
      split at h
      · obtain rfl := Option.some.inj h
        exact ⟨rfl, by simp, rest, rfl⟩
      · split at h
        · simp at h
        · split at h
          · obtain rfl := Option.some.inj h
            refine ⟨rfl, by simp, rest.dropWhile isWordChar, ?_⟩
            simp [List.takeWhile_append_dropWhile]
          · simp at h
  · simp at h

/-- A character with which a word, and no other value, may start. -/
def isWordStart (c : Char) : Bool :=
  isWordChar c && !(c == '&' || c == '|' || c == '-' || c == '!' || c == '"' || c == '/')

/-- The word scanner takes the longest word. -/
theorem word?_append {c : Char} {run rest : List Char} (hc : isWordStart c = true)
    (hrun : ∀ d ∈ run, isWordChar d = true) (hrest : rest.head?.all (!isWordChar ·) = true) :
    word? (c :: run ++ rest) = some ⟨.word, c :: run⟩ := by
  simp only [isWordStart, Bool.and_eq_true, Bool.not_eq_true', Bool.or_eq_false_iff,
    beq_eq_false_iff_ne] at hc
  have htake := (takeWhile_append_of_stop hrun hrest).1
  simp [word?, hc, htake]

/-- A word reaches no further than to the next character that is none of a word. -/
theorem length_word?_le {piece rest : List Char} {v : Value}
    (hpiece : piece ≠ []) (hrest : rest.head?.all (!isWordChar ·) = true)
    (h : word? (piece ++ rest) = some v) : v.length ≤ piece.length := by
  cases piece with
  | nil => exact absurd rfl hpiece
  | cons c piece =>
      simp only [List.cons_append, word?] at h
      have hrun := length_takeWhile_append_le piece hrest
      split at h
      · obtain rfl := Option.some.inj h
        simp [Value.length]
      · split at h
        · simp at h
        · split at h
          · obtain rfl := Option.some.inj h
            simpa [Value.length] using hrun
          · simp at h

/-! ## The longest candidate -/

section
variable {α : Type} {size : α → Nat}

/-- One step of the search for the longest candidate. -/
def better (size : α → Nat) (best next : Option α) : Option α :=
  match best, next with
  | some b, some n => if size b < size n then some n else some b
  | some b, none => some b
  | none, n => n

theorem better_eq_or (size : α → Nat) (best next : Option α) :
    better size best next = best ∨ better size best next = next := by
  cases best with
  | none => exact Or.inr rfl
  | some b =>
      cases next with
      | none => exact Or.inl rfl
      | some n =>
          simp only [better]
          split
          · exact Or.inr rfl
          · exact Or.inl rfl

/-- The longest candidate is one of the candidates. -/
theorem mem_of_longest {candidates : List (Option α)} {x : α}
    (h : longest size candidates = some x) : some x ∈ candidates := by
  have hfold : ∀ (cs : List (Option α)) (best : Option α),
      cs.foldl (better size) best = some x → best = some x ∨ some x ∈ cs := by
    intro cs
    induction cs with
    | nil =>
        intro best hbest
        exact Or.inl hbest
    | cons next cs ih =>
        intro best hbest
        rcases ih _ hbest with hstep | hmem
        · rcases better_eq_or size best next with heq | heq
          · exact Or.inl (heq.symm.trans hstep)
          · rw [heq] at hstep
            exact Or.inr (hstep ▸ List.mem_cons_self ..)
        · exact Or.inr (List.mem_cons_of_mem _ hmem)
  rcases hfold candidates none h with hnone | hmem
  · simp at hnone
  · exact hmem

theorem exists_better {best next : Option α} {y : α} (h : best = some y ∨ next = some y) :
    ∃ x, better size best next = some x ∧ size y ≤ size x := by
  rcases h with rfl | rfl
  · cases next with
    | none => exact ⟨y, rfl, Nat.le_refl _⟩
    | some n =>
        by_cases hlt : size y < size n
        · exact ⟨n, if_pos hlt, Nat.le_of_lt hlt⟩
        · exact ⟨y, if_neg hlt, Nat.le_refl _⟩
  · cases best with
    | none => exact ⟨y, rfl, Nat.le_refl _⟩
    | some b =>
        by_cases hlt : size b < size y
        · exact ⟨y, if_pos hlt, Nat.le_refl _⟩
        · exact ⟨b, if_neg hlt, Nat.le_of_not_lt hlt⟩

/-- No candidate is longer than the longest. -/
theorem exists_longest {candidates : List (Option α)} {y : α} (h : some y ∈ candidates) :
    ∃ x, longest size candidates = some x ∧ size y ≤ size x := by
  have hfold : ∀ (cs : List (Option α)) (best : Option α) (y : α), best = some y ∨ some y ∈ cs →
      ∃ x, cs.foldl (better size) best = some x ∧ size y ≤ size x := by
    intro cs
    induction cs with
    | nil =>
        rintro best y (hbest | hmem)
        · exact ⟨y, hbest, Nat.le_refl _⟩
        · cases hmem
    | cons next cs ih =>
        intro best y hy
        rw [List.mem_cons, ← or_assoc] at hy
        rcases hy with hstep | hmem
        · obtain ⟨b, hb, hle⟩ : ∃ b, better size best next = some b ∧ size y ≤ size b :=
            exists_better (hstep.imp_right Eq.symm)
          obtain ⟨x, hx, hle'⟩ := ih (better size best next) b (.inl hb)
          exact ⟨x, hx, Nat.le_trans hle hle'⟩
        · exact ih (better size best next) y (.inr hmem)
  exact hfold candidates none y (.inr h)

end

/-- The value scanner takes a value as it is spelled. -/
theorem eq_append_of_value? {text : List Char} {v : Value} (h : value? text = some v) :
    v.spelled ≠ [] ∧ ∃ rest, text = v.spelled ++ rest := by
  have hmem := mem_of_longest h
  simp only [List.mem_cons, List.not_mem_nil, or_false] at hmem
  rcases hmem with hphrase | hregex | hword
  · obtain ⟨s, rest, rfl, -, rfl⟩ := phrase?_eq_some_iff.mp hphrase.symm
    exact ⟨by simp [Value.spelled, Form.enclose], rest, by simp [Value.spelled, Form.enclose]⟩
  · obtain ⟨body, rest, rfl, -, rfl⟩ := regex?_eq_some_iff.mp hregex.symm
    exact ⟨by simp [Value.spelled, Form.enclose], rest, by simp [Value.spelled, Form.enclose]⟩
  · obtain ⟨hform, hne, rest, hrest⟩ := eq_append_of_word? hword.symm
    have hspelled : v.spelled = v.text := by rw [Value.spelled, hform, Form.enclose]
    rw [hspelled]
    exact ⟨hne, rest, hrest⟩

/-- A word is read as such if it ends where no word goes on. -/
theorem value?_word {c : Char} {run rest : List Char} (hc : isWordStart c = true)
    (hrun : ∀ d ∈ run, isWordChar d = true) (hrest : rest.head?.all (!isWordChar ·) = true) :
    value? (c :: run ++ rest) = some ⟨.word, c :: run⟩ := by
  have hstart := hc
  simp only [isWordStart, Bool.and_eq_true, Bool.not_eq_true', Bool.or_eq_false_iff,
    beq_eq_false_iff_ne] at hstart
  have hphrase : phrase? (c :: run ++ rest) = none := by simp [phrase?, hstart]
  have hregex : regex? (c :: run ++ rest) = none := by simp [regex?, hstart]
  rw [value?, hphrase, hregex, word?_append hc hrun hrest]
  rfl

/-- A phrase is read as such whatever follows it. -/
theorem value?_phrase {s : List Char} (hs : '"' ∉ s) (rest : List Char) :
    value? (Form.phrase.enclose s ++ rest) = some ⟨.phrase, s⟩ := by
  have htext : Form.phrase.enclose s ++ rest = '"' :: (s ++ '"' :: rest) := by
    simp [Form.enclose]
  have hphrase := phrase?_eq_some_iff.mpr ⟨s, rest, rfl, hs, rfl⟩
  rw [htext, value?, hphrase]
  have hregex : regex? ('"' :: (s ++ '"' :: rest)) = none := rfl
  have hword : word? ('"' :: (s ++ '"' :: rest)) = none := by
    simp [word?, isWordChar]
  rw [hregex, hword]
  rfl

/-- A regular expression is read as such if no word goes on after it; a word of the same length
starts there too, and yields. -/
theorem value?_regex {body : List Char} (hbody : isRegexBody body = true) {rest : List Char}
    (hrest : rest.head?.all (!isWordChar ·) = true) :
    value? (Form.regex.enclose body ++ rest) = some ⟨.regex, body⟩ := by
  have htext : Form.regex.enclose body ++ rest = '/' :: (body ++ '/' :: rest) := by
    simp [Form.enclose]
  have hregex := regex?_eq_some_iff.mpr ⟨body, rest, rfl, hbody, rfl⟩
  have hphrase : phrase? ('/' :: (body ++ '/' :: rest)) = none := rfl
  have hlonger : ∀ v, word? ('/' :: (body ++ '/' :: rest)) = some v → v.length ≤ body.length + 2 := by
    intro v hv
    have hpiece : Form.regex.enclose body ≠ [] := by simp [Form.enclose]
    have hle := length_word?_le hpiece hrest (htext ▸ hv)
    simpa [Form.enclose] using hle
  rw [htext, value?, hphrase, hregex]
  cases hword : word? ('/' :: (body ++ '/' :: rest)) with
  | none => rfl
  | some v =>
      have hle := hlonger v hword
      have hnot : ¬ (⟨.regex, body⟩ : Value).length < v.length := by
        simpa [Value.length] using hle
      simp [longest, hnot]

end Match

end RecordQuery
