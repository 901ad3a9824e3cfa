import RecordQuery.Toml.Lexeme
import Mathlib.Data.List.Basic

/-!
# Written strings

A string is read back from each of the forms in which it is written. The readers go over a written text
character by character: an escape is read as the character that it stands for, and any other character as
itself. Only quotes in strings on several lines need a look ahead, since three of them end the string.
-/

namespace RecordQuery.Toml.Quoted

/-! ## Escapes -/

/-- What a character is written as: a letter after a backslash, its number, or itself. -/
inductive Escapes (inLines : Bool) (c : Char) : List Char → Prop where
  | letter {e : Char} (h : escaped? e = some c) : Escapes inLines c ['\\', e]
  | number {a b : Char} (h : character? ['0', '0', a, b] = some c)
      (hgap : isGap a = false ∧ isGap b = false) :
      Escapes inLines c ['\\', 'u', '0', '0', a, b]
  | plain (hbackslash : c ≠ '\\') (h : isControl c = false ∨ (inLines = true ∧ c = '\n')) :
      Escapes inLines c [c]

/-- The number of a character below 128 in four hexadecimal digits. -/
private theorem character?_hex : ∀ n < 128,
    character? ['0', '0', (Nat.digitChar (n / 16)).toUpper, (Nat.digitChar (n % 16)).toUpper] =
      some (Char.ofNat n) := by
  decide

private theorem isGap_hex : ∀ n < 16, isGap (Nat.digitChar n).toUpper = false := by
  decide

theorem escapes_escape (inLines : Bool) (c : Char) : Escapes inLines c (escape inLines c) := by
  unfold escape
  split
  · exact .letter rfl
  · exact .letter rfl
  · exact .letter rfl
  · exact .letter rfl
  · exact .letter rfl
  · cases inLines with
    | true => exact .plain (by decide) (.inr ⟨rfl, rfl⟩)
    | false => exact .letter rfl
  · rename_i hbackslash hbreak
    cases hcontrol : isControl c with
    | true =>
        have hlt : c.toNat < 128 := by
          simp only [isControl, Bool.and_eq_true, Bool.or_eq_true, decide_eq_true_eq] at hcontrol
          omega
        exact .number ((character?_hex _ hlt).trans (by rw [Char.ofNat_toNat]))
          ⟨isGap_hex _ (by omega), isGap_hex _ (by omega)⟩
    | false => exact .plain hbackslash (.inl hcontrol)

/-- A letter that stands for a character neither starts a number nor goes on over the end of a line. -/
theorem ne_of_escaped? {e c : Char} (h : escaped? e = some c) :
    e ≠ 'u' ∧ e ≠ 'U' ∧ isGap e = false := by
  unfold escaped? at h
  split at h
  all_goals first | exact ⟨by decide, by decide, by decide⟩ | cases h

theorem gapLength?_cons {e : Char} (h : isGap e = false) (rest : List Char) :
    gapLength? (e :: rest) = none := by
  simp only [isGap, Bool.or_eq_false_iff, beq_eq_false_iff_ne] at h
  simp [gapLength?, h]

/-! ## One character -/

theorem basic?_escapes {c : Char} {w : List Char} (h : Escapes false c w) (hquote : c ≠ '"')
    (rest : List Char) : basic? (w ++ rest) = (basic? rest).after [c] w.length := by
  cases h with
  | letter h =>
      obtain ⟨hu, hU, -⟩ := ne_of_escaped? h
      show basic? ('\\' :: _ :: rest) = _
      rw [basic?, h]
      · rfl
      · rintro a b c d t rfl
        exact absurd rfl hu
      · rintro a b c d e f g h t rfl
        exact absurd rfl hU
  | number h hgap =>
      show (character? _).bind _ = _
      rw [h]
      rfl
  | plain hbackslash h =>
      have hcontrol : isControl c = false := by simpa using h
      show basic? (c :: rest) = _
      rw [basic?]
      · simp [hbackslash, hcontrol]
      all_goals simp [hquote, hbackslash]

theorem basicLines?_escapes {c : Char} {w : List Char} (h : Escapes true c w) (hquote : c ≠ '"')
    (rest : List Char) : basicLines? 0 (w ++ rest) = (basicLines? 0 rest).after [c] w.length := by
  cases h with
  | letter h =>
      obtain ⟨hu, hU, hgap⟩ := ne_of_escaped? h
      show basicLines? 0 ('\\' :: _ :: rest) = _
      rw [basicLines?, gapLength?_cons hgap, h]
      · rfl
      · rintro a b c d t rfl
        exact absurd rfl hu
      · rintro a b c d e f g h t rfl
        exact absurd rfl hU
  | number h hgap =>
      show (character? _).bind _ = _
      rw [h]
      rfl
  | plain hbackslash h =>
      have hcontrol : isControlInLines c = false := by
        rcases h with h | ⟨-, rfl⟩
        · simp [isControlInLines, h]
        · rfl
      show basicLines? 0 (c :: rest) = _
      rw [basicLines?]
      · simp [hbackslash, hcontrol]
      all_goals simp [hquote, hbackslash]

/-- A line break is written for a line break only, and a carriage return for nothing. -/
theorem Escapes.of_mem {inLines : Bool} {c d : Char} {w : List Char} (h : Escapes inLines c w)
    (hd : d ∈ w) : d ≠ '\r' ∧ (d = '\n' → c = '\n') := by
  have of_not_gap : ∀ e, isGap e = false → e ≠ '\r' ∧ (e = '\n' → c = '\n') := by
    intro e he
    constructor
    · rintro rfl
      cases he
    · rintro rfl
      cases he
  cases h with
  | letter h =>
      simp only [List.mem_cons, List.not_mem_nil, or_false] at hd
      rcases hd with rfl | rfl
      · exact of_not_gap _ rfl
      · exact of_not_gap _ (ne_of_escaped? h).2.2
  | number h hgap =>
      simp only [List.mem_cons, List.not_mem_nil, or_false] at hd
      rcases hd with rfl | rfl | rfl | rfl | rfl | rfl
      · exact of_not_gap _ rfl
      · exact of_not_gap _ rfl
      · exact of_not_gap _ rfl
      · exact of_not_gap _ rfl
      · exact of_not_gap _ hgap.1
      · exact of_not_gap _ hgap.2
  | plain hbackslash h =>
      obtain rfl : d = c := by simpa using hd
      refine ⟨?_, id⟩
      rintro rfl
      rcases h with h | ⟨-, h⟩ <;> cases h

theorem Escapes.head?_ne {inLines : Bool} {c : Char} {w : List Char} (h : Escapes inLines c w)
    (hquote : c ≠ '"') (rest : List Char) : (w ++ rest).head? ≠ some '"' := by
  cases h with
  | letter | number => simp
  | plain => simpa using hquote

/-! ## Strings on one line -/

@[simp] theorem Reading.after_some (front text : List Char) (n m : Nat) :
    Reading.after front n (some (text, m)) = some (front ++ text, n + m) := rfl

/-- The inside of a basic string is read back. -/
theorem basic?_basic (text rest : List Char) :
    basic? (basic text ++ '"' :: rest) = some (text, (basic text).length + 1) := by
  induction text with
  | nil => rfl
  | cons c text ih =>
      by_cases hquote : c = '"'
      · subst hquote
        show (basic? (basic text ++ '"' :: rest)).after ['"'] 2 = _
        rw [ih, Reading.after_some, basic]
        simp
        omega
      · rw [basic, List.append_assoc, basic?_escapes (escapes_escape false c) hquote, ih,
          Reading.after_some, List.length_append, Nat.add_assoc]
        · rfl
        · exact hquote

theorem head?_basic_cons (c : Char) (text rest : List Char) :
    (basic (c :: text) ++ rest).head? ≠ some '"' := by
  by_cases hquote : c = '"'
  · subst hquote
    simp [basic]
  · rw [basic, List.append_assoc]
    · exact (escapes_escape false c).head?_ne hquote _
    · exact hquote

/-- A text is its own literal form if it fits there. -/
theorem literal?_self {text : List Char} (h : ∀ c ∈ text, c ≠ '\'' ∧ isControl c = false)
    (rest : List Char) : literal? (text ++ '\'' :: rest) = some (text, text.length + 1) := by
  induction text with
  | nil => rfl
  | cons c text ih =>
      obtain ⟨hquote, hcontrol⟩ := h c List.mem_cons_self
      rw [List.cons_append, literal?, if_neg hquote, hcontrol, ih fun d hd =>
        h d (List.mem_cons_of_mem _ hd)]
      simp
      omega

/-! ## Strings on several lines -/

theorem basicLines?_close {rest : List Char} (hrest : rest.head? ≠ some '"') :
    basicLines? 0 ('"' :: '"' :: '"' :: rest) = some ([], 3) := by
  cases rest with
  | nil => rfl
  | cons c rest =>
      rw [basicLines?]
      · rintro t ⟨⟩
        simp at hrest
      · rintro t ⟨⟩
        simp at hrest

/-- A quote that is followed by less than two is read as itself. -/
theorem basicLines?_quote {body : List Char}
    (h : body.head? ≠ some '"' ∨ body.tail.head? ≠ some '"') :
    basicLines? 0 ('"' :: body) = (basicLines? 0 body).after ['"'] 1 := by
  rw [basicLines?]
  · rfl
  all_goals simp
  · rintro t rfl
    simp at h

/-- No quote in front of a closing delimiter is part of it. -/
theorem basicLines?_quote_close {rest : List Char} (hrest : rest.head? ≠ some '"') :
    basicLines? 0 ('"' :: '"' :: '"' :: '"' :: rest) = some (['"'], 4) := by
  rw [basicLines?]
  rintro t rfl
  simp at hrest

theorem head?_basicLines_cons (quotes : Nat) {c : Char} (hquote : c ≠ '"') (text rest : List Char) :
    (basicLines quotes (c :: text) ++ rest).head? ≠ some '"' := by
  rw [basicLines, List.append_assoc]
  · exact (escapes_escape true c).head?_ne hquote _
  · exact hquote

/-- A quote inside a string is read as itself, also where the closing delimiter follows it, or one more
quote and then the delimiter. -/
theorem basicLines?_quote_basicLines {quotes : Nat} (hquotes : quotes < 2) (text : List Char)
    {rest : List Char} (hrest : rest.head? ≠ some '"') :
    let body := basicLines (quotes + 1) text ++ '"' :: '"' :: '"' :: rest
    basicLines? 0 ('"' :: body) = (basicLines? 0 body).after ['"'] 1 := by
  intro body
  cases text with
  | nil =>
      have hbody : basicLines? 0 body = some ([], 3) := basicLines?_close hrest
      rw [hbody]
      exact basicLines?_quote_close hrest
  | cons c text =>
      by_cases hquote : c = '"'
      · subst hquote
        obtain rfl | rfl : quotes = 0 ∨ quotes = 1 := by omega
        · -- One quote more is still written as itself; what comes after it is not.
          cases text with
          | nil =>
              have hbody : basicLines? 0 body = some (['"'], 4) := basicLines?_quote_close hrest
              rw [hbody]
              rfl
          | cons d text =>
              refine basicLines?_quote (.inr ?_)
              by_cases hquote : d = '"'
              · subst hquote
                simp [body, basicLines]
              · exact head?_basicLines_cons 2 hquote text _
        · exact basicLines?_quote (.inl (by simp [body, basicLines]))
      · exact basicLines?_quote (.inl (head?_basicLines_cons _ hquote text _))

/-- The inside of a basic string on several lines is read back. -/
theorem basicLines?_basicLines {quotes : Nat} (hquotes : quotes ≤ 2) (text : List Char)
    {rest : List Char} (hrest : rest.head? ≠ some '"') :
    basicLines? 0 (basicLines quotes text ++ '"' :: '"' :: '"' :: rest) =
      some (text, (basicLines quotes text).length + 3) := by
  induction text generalizing quotes with
  | nil => exact basicLines?_close hrest
  | cons c text ih =>
      by_cases hquote : c = '"'
      · subst hquote
        by_cases htwo : quotes = 2
        · subst htwo
          show (basicLines? 0 (basicLines 0 text ++ '"' :: '"' :: '"' :: rest)).after ['"'] 2 = _
          rw [ih (by omega), Reading.after_some, basicLines, if_pos rfl]
          simp
          omega
        · have hwritten : basicLines quotes ('"' :: text) = '"' :: basicLines (quotes + 1) text := by
            rw [basicLines, if_neg htwo]
          rw [hwritten, List.cons_append, basicLines?_quote_basicLines (by omega) text hrest,
            ih (by omega), Reading.after_some]
          simp
          omega
      · rw [basicLines, List.append_assoc, basicLines?_escapes (escapes_escape true c) hquote,
          ih (by omega), Reading.after_some, List.length_append, Nat.add_assoc]
        · rfl
        · exact hquote

theorem literalLines?_close {rest : List Char} (hrest : rest.head? ≠ some '\'') :
    literalLines? ('\'' :: '\'' :: '\'' :: rest) = some ([], 3) := by
  cases rest with
  | nil => rfl
  | cons c rest =>
      rw [literalLines?]
      · rintro t ⟨⟩
        simp at hrest
      · rintro t ⟨⟩
        simp at hrest

theorem literalLines?_quote_close {rest : List Char} (hrest : rest.head? ≠ some '\'') :
    literalLines? ('\'' :: '\'' :: '\'' :: '\'' :: rest) = some (['\''], 4) := by
  rw [literalLines?]
  rintro t rfl
  simp at hrest

theorem literalLines?_cons {c : Char} {body : List Char} (hcontrol : isControlInLines c = false)
    (h : c ≠ '\'' ∨ body.head? ≠ some '\'' ∨ body.tail.head? ≠ some '\'') :
    literalLines? (c :: body) = (literalLines? body).after [c] 1 := by
  rw [literalLines?, hcontrol]
  · rfl
  all_goals
    intros
    subst_vars
    simp at h

/-- A text in which no three quotes stand in a row is its own literal form on several lines. -/
theorem literalLines?_self {text : List Char} (hcontrol : ∀ c ∈ text, isControlInLines c = false)
    (hquotes : Text.isInfix ['\'', '\'', '\''] text = false) {rest : List Char}
    (hrest : rest.head? ≠ some '\'') :
    literalLines? (text ++ '\'' :: '\'' :: '\'' :: rest) = some (text, text.length + 3) := by
  induction text with
  | nil => exact literalLines?_close hrest
  | cons c text ih =>
      have hc := hcontrol c List.mem_cons_self
      rw [Text.isInfix, Bool.or_eq_false_iff] at hquotes
      obtain ⟨hthree, hquotes⟩ := hquotes
      have ih := ih (fun d hd => hcontrol d (List.mem_cons_of_mem _ hd)) hquotes
      have hstep : literalLines? (c :: (text ++ '\'' :: '\'' :: '\'' :: rest)) =
          (literalLines? (text ++ '\'' :: '\'' :: '\'' :: rest)).after [c] 1 := by
        by_cases hquote : c = '\''
        · subst hquote
          rcases text with _ | ⟨d, _ | ⟨e, text⟩⟩
          · rw [List.nil_append, literalLines?_close hrest]
            exact literalLines?_quote_close hrest
          · by_cases hd : d = '\''
            · subst hd
              rw [ih]
              rfl
            · exact literalLines?_cons hc (.inr (.inl (by simpa using hd)))
          · refine literalLines?_cons hc (.inr ?_)
            by_cases hd : d = '\''
            · subst hd
              right
              intro he
              obtain rfl : e = '\'' := by simpa using he
              simp [List.isPrefixOf] at hthree
            · exact .inl (by simpa using hd)
        · exact literalLines?_cons hc (.inl hquote)
      rw [List.cons_append, hstep, ih, Reading.after_some]
      simp
      omega

/-- A line break is written in front of a text on several lines that has one, and is not read as part
of it. -/
theorem lines?_break (read? : List Char → Reading) (text : List Char) :
    lines? read? ('\n' :: text) = (read? text).after [] 1 := rfl

theorem lines?_of_head? (read? : List Char → Reading) {text : List Char}
    (hbreak : text.head? ≠ some '\n') (hreturn : text.head? ≠ some '\r') :
    lines? read? text = read? text := by
  have hlength : breakLength text = 0 := by
    unfold breakLength
    split
    · simp at hbreak
    · simp at hreturn
    · rfl
  rw [lines?, hlength]
  cases h : read? text with
  | none => simp [Reading.after, h]
  | some r => simp [Reading.after, h]

/-! ## All forms -/

theorem ne_return_of_mem_basic {text : List Char} {d : Char} (hd : d ∈ basic text) : d ≠ '\r' := by
  induction text with
  | nil => cases hd
  | cons c text ih =>
      by_cases hquote : c = '"'
      · subst hquote
        simp only [basic, List.mem_cons] at hd
        rcases hd with rfl | rfl | hd
        · decide
        · decide
        · exact ih hd
      · rw [basic, List.mem_append] at hd
        · exact hd.elim (fun hd => ((escapes_escape false c).of_mem hd).1) ih
        · exact hquote

theorem of_mem_basicLines {quotes : Nat} {text : List Char} {d : Char}
    (hd : d ∈ basicLines quotes text) : d ≠ '\r' ∧ (d = '\n' → '\n' ∈ text) := by
  induction text generalizing quotes with
  | nil => cases hd
  | cons c text ih =>
      have hrest : ∀ {quotes}, d ∈ basicLines quotes text →
          d ≠ '\r' ∧ (d = '\n' → '\n' ∈ c :: text) := fun hd =>
        ⟨(ih hd).1, fun hbreak => List.mem_cons_of_mem _ ((ih hd).2 hbreak)⟩
      by_cases hquote : c = '"'
      · subst hquote
        rw [basicLines] at hd
        split at hd
        · simp only [List.mem_cons] at hd
          rcases hd with rfl | rfl | hd
          · exact ⟨by decide, by simp⟩
          · exact ⟨by decide, by simp⟩
          · exact hrest hd
        · rcases List.mem_cons.mp hd with rfl | hd
          · exact ⟨by decide, by simp⟩
          · exact hrest hd
      · rw [basicLines, List.mem_append] at hd
        · rcases hd with hd | hd
          · obtain ⟨hreturn, hbreak⟩ := (escapes_escape true c).of_mem hd
            exact ⟨hreturn, fun h => hbreak h ▸ List.mem_cons_self⟩
          · exact hrest hd
        · exact hquote

/-- The line break in front of a text on several lines. -/
def leadingBreak (text : List Char) : List Char := if text.contains '\n' then ['\n'] else []

/-- A string on several lines is read behind the line break in front of it. -/
theorem lines?_leadingBreak {read? : List Char → Reading} {text inside closed : List Char} {n : Nat}
    (hinside : ∀ d ∈ inside, d ≠ '\r' ∧ (d = '\n' → '\n' ∈ text))
    (hclosed : closed.head? ≠ some '\n' ∧ closed.head? ≠ some '\r')
    (hread : read? (inside ++ closed) = some (text, n)) :
    lines? read? (leadingBreak text ++ (inside ++ closed)) =
      some (text, (leadingBreak text).length + n) := by
  unfold leadingBreak
  cases hbreak : text.contains '\n' with
  | true =>
      show lines? read? ('\n' :: (inside ++ closed)) = _
      rw [lines?_break, hread]
      rfl
  | false =>
      have hnone : '\n' ∉ text := by simpa using hbreak
      have hhead : (inside ++ closed).head? ≠ some '\n' ∧ (inside ++ closed).head? ≠ some '\r' := by
        cases inside with
        | nil => exact hclosed
        | cons d inside =>
            obtain ⟨hreturn, hd⟩ := hinside d List.mem_cons_self
            refine ⟨?_, by simpa using hreturn⟩
            intro h
            exact hnone (hd (by simpa using h))
      show lines? read? (inside ++ closed) = _
      rw [lines?_of_head? read? hhead.1 hhead.2, hread]
      simp

/-- The text and the length of a string that is one lexeme, of either kind. -/
def IsWritten (text written rest : List Char) : Prop :=
  ∃ x, Lexeme.at? (written ++ rest) = some (x, written.length) ∧
    (x = .string (String.ofList text) ∨ x = .lines (String.ofList text))

variable {text rest : List Char}

theorem isWritten_basic (text : List Char) (hrest : rest.head? ≠ some '"') :
    IsWritten text ('"' :: basic text ++ ['"']) rest := by
  refine ⟨.string (String.ofList text), ?_, .inl rfl⟩
  show Lexeme.at? ('"' :: (basic text ++ ['"'] ++ rest)) = _
  rw [List.append_assoc, List.singleton_append, Lexeme.at?, basic?_basic]
  · simp [Lexeme.ofReading]
    omega
  · intro t ht
    cases text with
    | nil =>
        obtain rfl : rest = '"' :: t := by simpa [basic] using ht
        simp at hrest
    | cons c text =>
        have hhead := head?_basic_cons c text ('"' :: rest)
        rw [ht] at hhead
        simp at hhead

theorem isWritten_literal (h : ∀ c ∈ text, c ≠ '\'' ∧ isControl c = false)
    (hrest : rest.head? ≠ some '\'') : IsWritten text ('\'' :: text ++ ['\'']) rest := by
  refine ⟨.string (String.ofList text), ?_, .inl rfl⟩
  show Lexeme.at? ('\'' :: (text ++ ['\''] ++ rest)) = _
  rw [List.append_assoc, List.singleton_append, Lexeme.at?, literal?_self h]
  · simp [Lexeme.ofReading]
    omega
  · intro t ht
    cases text with
    | nil =>
        obtain rfl : rest = '\'' :: t := by simpa using ht
        simp at hrest
    | cons c text =>
        obtain ⟨rfl, -⟩ : c = '\'' ∧ _ := by simpa using ht
        exact (h _ List.mem_cons_self).1 rfl

theorem isWritten_basicLines (text : List Char) (hrest : rest.head? ≠ some '"') :
    IsWritten text
      (['"', '"', '"'] ++ leadingBreak text ++ basicLines 0 text ++ ['"', '"', '"']) rest := by
  refine ⟨.lines (String.ofList text), ?_, .inr rfl⟩
  have hinside := basicLines?_basicLines (Nat.zero_le 2) text hrest
  have hread := lines?_leadingBreak (fun d hd => of_mem_basicLines hd) ⟨by simp, by simp⟩ hinside
  have hat : Lexeme.at? ('"' :: '"' :: '"' :: (leadingBreak text ++ (basicLines 0 text ++
      '"' :: '"' :: '"' :: rest))) = _ := congrArg (Lexeme.ofReading .lines 3) hread
  simp only [List.cons_append, List.nil_append, List.append_assoc, hat]
  simp [Lexeme.ofReading]
  omega

theorem isWritten_literalLines (hcontrol : ∀ c ∈ text, c ≠ '\n' → isControl c = false)
    (hquotes : Text.isInfix ['\'', '\'', '\''] text = false) (hrest : rest.head? ≠ some '\'') :
    IsWritten text (['\'', '\'', '\''] ++ leadingBreak text ++ text ++ ['\'', '\'', '\'']) rest := by
  refine ⟨.lines (String.ofList text), ?_, .inr rfl⟩
  have hlines : ∀ c ∈ text, isControlInLines c = false := by
    intro c hc
    by_cases hbreak : c = '\n'
    · simp [isControlInLines, hbreak]
    · simp [isControlInLines, hcontrol c hc hbreak]
  have hreturn : ∀ c ∈ text, c ≠ '\r' := by
    rintro c hc rfl
    exact absurd (hcontrol _ hc (by decide)) (by decide)
  have hinside := literalLines?_self hlines hquotes hrest
  have hread := lines?_leadingBreak (fun d hd => ⟨hreturn d hd, fun h => h ▸ hd⟩)
    ⟨by simp, by simp⟩ hinside
  have hat : Lexeme.at? ('\'' :: '\'' :: '\'' :: (leadingBreak text ++ (text ++
      '\'' :: '\'' :: '\'' :: rest))) = _ := congrArg (Lexeme.ofReading .lines 3) hread
  simp only [List.cons_append, List.nil_append, List.append_assoc, hat]
  simp [Lexeme.ofReading]
  omega

/-- The forms in which a text is written. A literal form needs that it fits. -/
inductive Forms (text : List Char) : List Char → Prop where
  | basic : Forms text ('"' :: basic text ++ ['"'])
  | literal (h : ∀ c ∈ text, c ≠ '\'' ∧ isControl c = false) : Forms text ('\'' :: text ++ ['\''])
  | basicLines :
      Forms text (['"', '"', '"'] ++ leadingBreak text ++ basicLines 0 text ++ ['"', '"', '"'])
  | literalLines (hcontrol : ∀ c ∈ text, c ≠ '\n' → isControl c = false)
      (hquotes : Text.isInfix ['\'', '\'', '\''] text = false) :
      Forms text (['\'', '\'', '\''] ++ leadingBreak text ++ text ++ ['\'', '\'', '\''])

theorem forms_write (text : List Char) : Forms text (write text) := by
  have control_of : (text.any fun c => c != '\n' && isControl c) = false →
      ∀ c ∈ text, c ≠ '\n' → isControl c = false := by
    intro h c hc hbreak
    simpa [hbreak] using List.any_eq_false.mp h c hc
  unfold write
  extract_lets hasControl hasBackslash hasBreak lineBreak double single
  split
  · exact .basic
  split
  · rename_i h
    simp only [Bool.and_eq_true, Bool.not_eq_true'] at h
    obtain ⟨⟨hcontrol, hbreak⟩, hquote⟩ := h
    refine .literal fun c hc => ⟨?_, control_of hcontrol c hc ?_⟩
    · rintro rfl
      simp [hc] at hquote
    · rintro rfl
      simp [hasBreak, hc] at hbreak
  split
  · exact .basicLines
  split
  · rename_i h
    simp only [Bool.and_eq_true, Bool.not_eq_true'] at h
    exact .literalLines (control_of h.1) h.2
  split
  · exact .basicLines
  · exact .basic

theorem Forms.ne_nil {written : List Char} (h : Forms text written) : written ≠ [] := by
  cases h <;> simp

theorem Forms.isWritten {written : List Char} (h : Forms text written)
    (hdouble : rest.head? ≠ some '"') (hsingle : rest.head? ≠ some '\'') :
    IsWritten text written rest := by
  cases h with
  | basic => exact isWritten_basic text hdouble
  | literal h => exact isWritten_literal h hsingle
  | basicLines => exact isWritten_basicLines text hdouble
  | literalLines hcontrol hquotes => exact isWritten_literalLines hcontrol hquotes hsingle

theorem return_notMem_leadingBreak (text : List Char) : '\r' ∉ leadingBreak text := by
  unfold leadingBreak
  split <;> simp

/-- No form holds a carriage return, which has an escape of its own. -/
theorem Forms.return_notMem {written : List Char} (h : Forms text written) : '\r' ∉ written := by
  cases h with
  | basic =>
      have hinside : '\r' ∉ Quoted.basic text := fun h => ne_return_of_mem_basic h rfl
      simp [hinside]
  | literal h =>
      have hinside : '\r' ∉ text := fun hmem =>
        absurd (h _ hmem).2 (by decide)
      simp [hinside]
  | basicLines =>
      have hinside : '\r' ∉ Quoted.basicLines 0 text := fun h => (of_mem_basicLines h).1 rfl
      simp [hinside, return_notMem_leadingBreak]
  | literalLines hcontrol hquotes =>
      have hinside : '\r' ∉ text := fun hmem =>
        absurd (hcontrol _ hmem (by decide)) (by decide)
      simp [hinside, return_notMem_leadingBreak]

end RecordQuery.Toml.Quoted
