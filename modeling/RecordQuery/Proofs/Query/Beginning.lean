import RecordQuery.Proofs.Query.Printing
import RecordQuery.Proofs.Query.Reads

/-!
# What stands at a place

The match at a place, told by the way the text starts there: with a sign, with a joiner, or with a
phrase or regular expression, alone or under a key.
-/

namespace RecordQuery.Match

variable {rules : Rules} {before : Option Char}

/-! ## Characters -/

theorem isBlank_of_isKeyStart {c : Char} (h : isKeyStart c = true) : Text.isBlank c = false := by
  rcases Bool.or_eq_true_iff.mp h with hletter | hunderscore
  · exact Text.isBlank_of_isAlphanumeric hletter
  · obtain rfl := eq_of_beq hunderscore
    decide

/-- The characters, blanks apart, that no word holds. -/
def marks : List Char :=
  ['(', ')', '"', '~', '&', '|', '^', '\x7b', '\x7d', '[', ']', ';', '\\', '\x60', '<', '>']

theorem isWordChar_iff {c : Char} : isWordChar c = true ↔ Text.isBlank c = false ∧ c ∉ marks := by
  simp [isWordChar, marks, and_assoc]

/-- Characters of a kind that neither a blank nor a mark is of are characters of words. -/
theorem isWordChar_of_marks {p : Char → Bool}
    (hcodes : ∀ n ∈ Text.blankCodes, p (Char.ofNat n) = false) (hmarks : marks.all (!p ·) = true)
    {c : Char} (h : p c = true) : isWordChar c = true := by
  refine isWordChar_iff.mpr ⟨Text.isBlank_of_blankCodes hcodes h, ?_⟩
  intro hc
  have hnot := List.all_eq_true.mp hmarks c hc
  simp [h] at hnot

/-- The characters of keys are characters of words. -/
theorem isWordChar_of_isKeyChar {c : Char} (h : isKeyChar c = true) : isWordChar c = true :=
  isWordChar_of_marks (by decide +kernel) (by decide +kernel) h

/-- So are those of literals. -/
theorem isWordChar_of_isLiteralChar {c : Char} (h : Literal.isLiteralChar c = true) :
    isWordChar c = true :=
  isWordChar_of_marks (by decide +kernel) (by decide +kernel) h

/-- A character that may stand in front of the start of a group. -/
def isBoundary (c : Char) : Bool := Text.isBlank c || c == '('

/-! ## Candidates that do not arise -/

/-- Without a key there is no range, no comparison and no term with a key. -/
theorem none_of_key?_eq_none {text : List Char} (h : key? text = none) :
    range? text = none ∧ compared? text = none ∧ keyed? text = none := by
  simp [range?, compared?, keyed?, h]

/-- Without a parenthesis, hyphen or exclamation mark there is no sign. -/
theorem no_sign {c : Char} (hopen : c ≠ '(') (hclose : c ≠ ')') (hhyphen : c ≠ '-') (hmark : c ≠ '!')
    (before : Option Char) (text : List Char) :
    openGroup? before (c :: text) = none ∧ closeGroup? (c :: text) = none ∧
      negation? (c :: text) = none := by
  simp [openGroup?, closeGroup?, negation?, hopen, hclose, hhyphen, hmark]

/-- Without a key, quote, slash or word there is no term. -/
theorem no_term {c : Char} {text : List Char} (hkey : isKeyStart c = false) (hquote : c ≠ '"')
    (hslash : c ≠ '/') (hword : word? (c :: text) = none) (rules : Rules) :
    range? (c :: text) = none ∧ compared? (c :: text) = none ∧ term? rules (c :: text) = none := by
  obtain ⟨hrange, hcompared, hkeyed⟩ := none_of_key?_eq_none (key?_cons_eq_none hkey text)
  refine ⟨hrange, hcompared, ?_⟩
  simp [term?, hkeyed, unkeyed?, value?, phrase?, regex?, hquote, hslash, hword, longest]

/-! ## Signs -/

theorem at?_openGroup (hbefore : before.all isBoundary = true) (rest : List Char) :
    at? rules before ('(' :: rest) = some (sign 1 (.openGroup false)) := by
  have hopen : openGroup? before ('(' :: rest) = some (sign 1 (.openGroup false)) := by
    unfold openGroup?
    exact if_pos hbefore
  have hnegation : negation? ('(' :: rest) = none := by simp [negation?]
  have hword : word? ('(' :: rest) = none := by simp [word?, isWordChar]
  obtain ⟨hrange, hcompared, hterm⟩ :=
    no_term (by decide) (by decide) (by decide) hword rules
  rw [at?, hopen, hnegation, hrange, hcompared, hterm]
  rfl

/-- A hyphen or exclamation mark starts neither a word nor any other term. -/
theorem no_term_of_mark {c : Char} (hc : c = '-' ∨ c = '!') (rest : List Char) (rules : Rules) :
    range? (c :: rest) = none ∧ compared? (c :: rest) = none ∧ term? rules (c :: rest) = none ∧
      closeGroup? (c :: rest) = none := by
  have hword : word? (c :: rest) = none := by rcases hc with rfl | rfl <;> simp [word?]
  have hnone : isKeyStart c = false ∧ c ≠ '"' ∧ c ≠ '/' ∧ c ≠ ')' := by
    rcases hc with rfl | rfl <;> decide
  obtain ⟨hrange, hcompared, hterm⟩ := no_term hnone.1 hnone.2.1 hnone.2.2.1 hword rules
  exact ⟨hrange, hcompared, hterm, by simp [closeGroup?, hnone.2.2.2]⟩

theorem at?_negatedGroup {c : Char} (hc : c = '-' ∨ c = '!') (hbefore : before.all isBoundary = true)
    (rest : List Char) : at? rules before (c :: '(' :: rest) = some (sign 2 (.openGroup true)) := by
  have hopen : openGroup? before (c :: '(' :: rest) = some (sign 2 (.openGroup true)) := by
    unfold openGroup?
    rcases hc with rfl | rfl <;> exact if_pos hbefore
  have hnegation : negation? (c :: '(' :: rest) = none := by simp [negation?]
  obtain ⟨hrange, hcompared, hterm, hclose⟩ := no_term_of_mark hc ('(' :: rest) rules
  rw [at?, hopen, hclose, hnegation, hrange, hcompared, hterm]
  rfl

theorem at?_closeGroup (rest : List Char) :
    at? rules before (')' :: rest) = some (sign 1 .closeGroup) := by
  have hopen : openGroup? before (')' :: rest) = none := by simp [openGroup?]
  have hnegation : negation? (')' :: rest) = none := by simp [negation?]
  have hword : word? (')' :: rest) = none := by simp [word?, isWordChar]
  obtain ⟨hrange, hcompared, hterm⟩ :=
    no_term (by decide) (by decide) (by decide) hword rules
  rw [at?, hopen, hnegation, hrange, hcompared, hterm]
  rfl

theorem at?_negation {c : Char} (hc : c = '-' ∨ c = '!') {rest : List Char}
    (hrest : rest.head? ≠ some '(') : at? rules before (c :: rest) = some (sign 1 .negation) := by
  have hparen : c ≠ '(' := by rcases hc with rfl | rfl <;> decide
  have hopen : openGroup? before (c :: rest) = none := by
    cases rest with
    | nil => simp [openGroup?, hparen]
    | cons d rest =>
        have hd : d ≠ '(' := by simpa using hrest
        simp [openGroup?, hparen, hd]
  have hnegation : negation? (c :: rest) = some (sign 1 .negation) := by
    simp [negation?, hc, hrest]
  obtain ⟨hrange, hcompared, hterm, hclose⟩ := no_term_of_mark hc rest rules
  rw [at?, hopen, hclose, hnegation, hrange, hcompared, hterm]
  rfl

/-! ## Joiners -/

/-- A key with a blank after it is the key of nothing. -/
theorem no_key_before_blank {key : List Char} (hkey : isKey key = true) (rest : List Char) :
    range? (key ++ ' ' :: rest) = none ∧ compared? (key ++ ' ' :: rest) = none ∧
      keyed? (key ++ ' ' :: rest) = none := by
  have hstop : (' ' :: rest).head?.all (!isKeyChar ·) = true := by
    show (!isKeyChar ' ') = true
    decide
  have hscan : key? (key ++ ' ' :: rest) = some (key, ' ' :: rest) :=
    key?_eq_some_iff.mpr ⟨rfl, hkey, hstop⟩
  simp [range?, compared?, keyed?, hscan, comparison?]

theorem at?_joiner (o : Connective) (rest : List Char) :
    at? rules before (o.spelling.toList ++ ' ' :: rest) =
      some (sign o.spelling.length (.joiner o.joiner)) := by
  have hkey : isKey o.spelling.toList = true := by cases o <;> decide
  obtain ⟨hrange, hcompared, hkeyed⟩ := no_key_before_blank hkey rest
  have hvalue : value? (o.spelling.toList ++ ' ' :: rest) =
      some ⟨.word, o.spelling.toList⟩ := by
    have hrest : (' ' :: rest).head?.all (!isWordChar ·) = true := by
      show (!isWordChar ' ') = true
      decide
    cases o <;> exact value?_word (by decide) (List.all_eq_true.mp (by decide)) hrest
  have hterm : term? rules (o.spelling.toList ++ ' ' :: rest) =
      some (sign o.spelling.length (.joiner o.joiner)) := by
    rw [term?, hkeyed, unkeyed?, hvalue]
    cases o <;> rfl
  have hsign : openGroup? before (o.spelling.toList ++ ' ' :: rest) = none ∧
      closeGroup? (o.spelling.toList ++ ' ' :: rest) = none ∧
      negation? (o.spelling.toList ++ ' ' :: rest) = none := by
    cases o <;> exact no_sign (by decide) (by decide) (by decide) (by decide) _ _
  rw [at?, hsign.1, hsign.2.1, hsign.2.2, hrange, hcompared, hterm]
  rfl

/-! ## Delimited values -/

/-- A phrase or regular expression whose text does not end it early. -/
def Value.isDelimited (v : Value) : Bool :=
  match v.form with
  | .word => false
  | .phrase => !v.text.contains '"'
  | .regex => isRegexBody v.text

theorem value?_spelled {v : Value} (hv : v.isDelimited = true) {rest : List Char}
    (hrest : rest.head?.all (!isWordChar ·) = true) : value? (v.spelled ++ rest) = some v := by
  obtain ⟨form, text⟩ := v
  cases form with
  | word => simp [Value.isDelimited] at hv
  | phrase => exact value?_phrase (by simpa [Value.isDelimited] using hv) rest
  | regex => exact value?_regex hv hrest

/-- The first character of a delimited value. -/
theorem exists_delimiter {v : Value} (hv : v.isDelimited = true) :
    ∃ c text, v.spelled = c :: text ∧ (c = '"' ∨ c = '/') := by
  obtain ⟨form, text⟩ := v
  cases form with
  | word => simp [Value.isDelimited] at hv
  | phrase => exact ⟨'"', _, rfl, Or.inl rfl⟩
  | regex => exact ⟨'/', _, rfl, Or.inr rfl⟩

theorem at?_unkeyed {v : Value} (hv : v.isDelimited = true) {rest : List Char}
    (hrest : rest.head?.all (!isWordChar ·) = true) :
    at? rules before (v.spelled ++ rest) = some (ofValue v.length rules.defaultKey v) := by
  have hvalue := value?_spelled hv hrest
  obtain ⟨c, text, hc, hdelimiter⟩ := exists_delimiter hv
  have hkey : key? (v.spelled ++ rest) = none := by
    rw [hc, List.cons_append]
    rcases hdelimiter with rfl | rfl
    · exact key?_cons_eq_none (by decide) _
    · exact key?_cons_eq_none (by decide) _
  obtain ⟨hrange, hcompared, hkeyed⟩ := none_of_key?_eq_none hkey
  have hform : v.form ≠ .word := by
    intro hword
    simp [Value.isDelimited, hword] at hv
  have hterm : term? rules (v.spelled ++ rest) = some (ofValue v.length rules.defaultKey v) := by
    rw [term?, hkeyed, unkeyed?, hvalue]
    simp [hform]
  have hsign : openGroup? before (v.spelled ++ rest) = none ∧
      closeGroup? (v.spelled ++ rest) = none ∧ negation? (v.spelled ++ rest) = none := by
    rw [hc, List.cons_append]
    rcases hdelimiter with rfl | rfl
    · exact no_sign (by decide) (by decide) (by decide) (by decide) _ _
    · exact no_sign (by decide) (by decide) (by decide) (by decide) _ _
  rw [at?, hsign.1, hsign.2.1, hsign.2.2, hrange, hcompared, hterm]
  rfl

theorem isKeyChar_of_isKeyStart {c : Char} (h : isKeyStart c = true) : isKeyChar c = true := by
  rw [isKeyStart] at h
  simp [isKeyChar, h]

theorem isKeyChar_of_mem {key : List Char} (hkey : isKey key = true) {c : Char} (hc : c ∈ key) :
    isKeyChar c = true := by
  cases key with
  | nil => cases hc
  | cons d key =>
      obtain ⟨hstart, hrest⟩ := Bool.and_eq_true_iff.mp hkey
      rcases List.mem_cons.mp hc with rfl | hc
      · exact isKeyChar_of_isKeyStart hstart
      · exact List.all_eq_true.mp hrest c hc

theorem head?_ne_of_isKey {key : List Char} (hkey : isKey key = true) {c : Char}
    (hc : isKeyStart c = false) (rest : List Char) : (key ++ rest).head? ≠ some c := by
  cases key with
  | nil => simp [isKey] at hkey
  | cons d key =>
      have hd : isKeyStart d = true := (Bool.and_eq_true_iff.mp hkey).1
      simp only [List.cons_append, List.head?_cons, ne_eq, Option.some.injEq]
      rintro rfl
      simp [hd] at hc

/-- No sign starts with a key. -/
theorem no_sign_of_isKey {key : List Char} (hkey : isKey key = true) (before : Option Char)
    (rest : List Char) :
    openGroup? before (key ++ rest) = none ∧ closeGroup? (key ++ rest) = none ∧
      negation? (key ++ rest) = none := by
  cases key with
  | nil => simp [isKey] at hkey
  | cons c key =>
      have hc : isKeyStart c = true := (Bool.and_eq_true_iff.mp hkey).1
      have hne : ∀ d, isKeyStart d = false → c ≠ d := by
        rintro d hd rfl
        simp [hc] at hd
      exact no_sign (hne _ (by decide)) (hne _ (by decide)) (hne _ (by decide))
        (hne _ (by decide)) _ _

/-- The key scanner stops at a colon. -/
theorem key?_colon {key : List Char} (hkey : isKey key = true) (text : List Char) :
    key? (key ++ ':' :: text) = some (key, ':' :: text) := by
  refine key?_eq_some_iff.mpr ⟨rfl, hkey, ?_⟩
  show (!isKeyChar ':') = true
  decide

/-- Where no literal stands after a key and a colon, there is no range and no comparison. -/
theorem no_literal_after_colon {key : List Char} (hkey : isKey key = true) (text : List Char)
    (htext : text.takeWhile Literal.isLiteralChar = []) :
    range? (key ++ ':' :: text) = none ∧ compared? (key ++ ':' :: text) = none := by
  simp only [range?, compared?, key?_colon hkey, comparison?, Option.bind_eq_bind, Option.bind_some,
    htext]
  exact ⟨rfl, rfl⟩

theorem at?_keyed {key : List Char} {v : Value} (hkey : isKey key = true)
    (hv : v.isDelimited = true) {rest : List Char}
    (hrest : rest.head?.all (!isWordChar ·) = true) :
    at? rules before (key ++ ':' :: (v.spelled ++ rest)) =
      some (ofValue (key.length + 1 + v.length) (some (String.ofList key)) v) := by
  have hvalue := value?_spelled hv hrest
  obtain ⟨c, text, hc, hdelimiter⟩ := exists_delimiter hv
  -- A quote or slash after the colon leaves no literal there.
  have hliteral : (v.spelled ++ rest).takeWhile Literal.isLiteralChar = [] := by
    rw [hc, List.cons_append]
    rcases hdelimiter with rfl | rfl
    · exact List.takeWhile_cons_of_neg (by decide)
    · exact List.takeWhile_cons_of_neg (by decide)
  obtain ⟨hrange, hcompared⟩ := no_literal_after_colon hkey _ hliteral
  have hterm : term? rules (key ++ ':' :: (v.spelled ++ rest)) =
      some (ofValue (key.length + 1 + v.length) (some (String.ofList key)) v) := by
    simp [term?, keyed?, key?_colon hkey, hvalue]
  obtain ⟨hopen, hclose, hnegation⟩ :=
    no_sign_of_isKey hkey before (':' :: (v.spelled ++ rest))
  rw [at?, hopen, hclose, hnegation, hrange, hcompared, hterm]
  rfl

end RecordQuery.Match

/-! ## Signs and joiners that are read -/

namespace RecordQuery

open Segment

variable {rules : Rules} {before : Option Char}

theorem reads_openGroup (hbefore : before.all Match.isBoundary = true) (n : Bool)
    (rest : List Char) :
    Reads rules before (if n then ['-', '('] else ['(']) rest [.openGroup n] := by
  cases n with
  | false => exact .found (by simp) (by decide) (Match.at?_openGroup hbefore rest) rfl rfl rfl
  | true =>
      exact .found (by simp) (by decide) (Match.at?_negatedGroup (.inl rfl) hbefore rest) rfl rfl rfl

theorem reads_closeGroup (before : Option Char) (rest : List Char) :
    Reads rules before [')'] rest [.closeGroup] :=
  .found (by simp) (by decide) (Match.at?_closeGroup rest) rfl rfl rfl

theorem reads_joiner (before : Option Char) (o : Connective) (rest : List Char) :
    Reads rules before o.spelling.toList (' ' :: rest) [.joiner o.joiner] := by
  refine .found ?_ ?_ (Match.at?_joiner o rest) ?_ rfl rfl
  · cases o <;> decide
  · cases o <;> decide
  · cases o <;> rfl

end RecordQuery
