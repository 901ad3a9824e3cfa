import Mathlib.Data.List.Basic
import RecordQuery.Text.Alphanumeric
import RecordQuery.Text.Parts

/-!
# Words

How a character at either end of a text joins its words, and how a blank parts them, and what that makes
of the normal spelling: at most one space comes between the character, or the other text, and the rest.
No blank is a letter or number.
-/

namespace RecordQuery.Text

variable {c : Char} {text : List Char}

/-! ## A character in front -/

theorem words_cons_blank (hc : isBlank c = true) (text : List Char) :
    words (c :: text) = words text := by
  cases text with
  | nil => simp [words, hc]
  | cons d text => rw [words, if_pos hc]

/-- In front of a blank or of the end, a character is a word of its own. -/
theorem words_cons_single (hc : isBlank c = false) (htext : text.head?.all isBlank = true) :
    words (c :: text) = [c] :: words text := by
  cases text with
  | nil => simp [words, hc]
  | cons d text =>
      have hd : isBlank d = true := by simpa using htext
      rw [words, if_neg (by simp [hc]), if_pos hd]

/-- In front of a word, it starts that word. -/
theorem words_cons_glue (hc : isBlank c = false) {d : Char} (hd : isBlank d = false) :
    words (c :: d :: text) = glue c (words (d :: text)) := by
  rw [words, if_neg (by simp [hc]), if_neg (by simp [hd])]

theorem glue_ne_nil (c : Char) (rest : List (List Char)) : glue c rest ≠ [] := by
  cases rest <;> simp [glue]

theorem words_ne_nil (hc : isBlank c = false) (text : List Char) : words (c :: text) ≠ [] := by
  cases text with
  | nil => simp [words, hc]
  | cons d text =>
      cases hd : isBlank d with
      | true =>
          have hstop : (d :: text).head?.all isBlank = true := by simpa using hd
          simp [words_cons_single hc hstop]
      | false =>
          rw [words_cons_glue hc hd]
          exact glue_ne_nil c _

/-- Text without a blank is one word. -/
theorem words_of_no_blank (hne : text ≠ []) (h : ∀ c ∈ text, isBlank c = false) :
    words text = [text] := by
  induction text with
  | nil => exact absurd rfl hne
  | cons c text ih =>
      obtain ⟨hc, htext⟩ := List.forall_mem_cons.mp h
      cases text with
      | nil => exact words_cons_single hc rfl
      | cons d text =>
          rw [words_cons_glue hc (htext d (List.mem_cons_self ..)), ih (by simp) htext]
          rfl

/-! ## A character at the end -/

theorem glue_append {first : List (List Char)} (h : first ≠ []) (second : List (List Char)) :
    glue c (first ++ second) = glue c first ++ second := by
  cases first with
  | nil => exact absurd rfl h
  | cons word rest => rfl

/-- A character at the end of a text is a word of its own or ends the last word. -/
theorem words_append_singleton (hc : isBlank c = false) (text : List Char) :
    words (text ++ [c]) = words text ++ [[c]] ∨
      ∃ rest word, words text = rest ++ [word] ∧ words (text ++ [c]) = rest ++ [word ++ [c]] := by
  induction text with
  | nil => exact .inl (words_cons_single hc rfl)
  | cons d text ih =>
      rw [List.cons_append]
      cases hd : isBlank d with
      | true => rwa [words_cons_blank hd, words_cons_blank hd]
      | false =>
          cases text with
          | nil =>
              refine .inr ⟨[], [d], words_cons_single hd rfl, ?_⟩
              rw [List.nil_append, words_cons_glue hd hc, words_cons_single hc rfl]
              rfl
          | cons e text =>
              cases he : isBlank e with
              | true =>
                  have hstop : ∀ rest, (e :: rest).head?.all isBlank = true := by simp [he]
                  rw [List.cons_append] at ih ⊢
                  rw [words_cons_single hd (hstop _), words_cons_single hd (hstop _)]
                  rcases ih with ih | ⟨rest, word, hwords, ih⟩
                  · exact .inl (by rw [ih, List.cons_append])
                  · exact .inr ⟨[d] :: rest, word, by rw [hwords, List.cons_append],
                      by rw [ih, List.cons_append]⟩
              | false =>
                  rw [List.cons_append] at ih ⊢
                  rw [words_cons_glue hd he, words_cons_glue hd he]
                  rcases ih with ih | ⟨rest, word, hwords, ih⟩
                  · exact .inl (by rw [ih, glue_append (words_ne_nil he text)])
                  · rw [hwords, ih]
                    cases rest with
                    | nil => exact .inr ⟨[], d :: word, rfl, rfl⟩
                    | cons first rest => exact .inr ⟨(d :: first) :: rest, word, rfl, rfl⟩

/-! ## A blank between two texts -/

theorem words_append_blank (hc : isBlank c = true) (first second : List Char) :
    words (first ++ c :: second) = words first ++ words second := by
  have hstop : (c :: second).head?.all isBlank = true := by simpa using hc
  induction first with
  | nil => exact words_cons_blank hc second
  | cons d first ih =>
      rw [List.cons_append]
      cases hd : isBlank d with
      | true => rw [words_cons_blank hd, words_cons_blank hd, ih]
      | false =>
          cases first with
          | nil =>
              rw [List.nil_append, words_cons_single hd hstop, words_cons_blank hc,
                words_cons_single hd rfl]
              rfl
          | cons e first =>
              rw [List.cons_append] at ih ⊢
              cases he : isBlank e with
              | true =>
                  have hhead : ∀ rest, (e :: rest).head?.all isBlank = true := by simp [he]
                  rw [words_cons_single hd (hhead _), words_cons_single hd (hhead _), ih,
                    List.cons_append]
              | false =>
                  rw [words_cons_glue hd he, words_cons_glue hd he, ih,
                    glue_append (words_ne_nil he first)]

/-- Words are made of the characters of the text that are not blank. -/
theorem mem_of_mem_words {word : List Char} (hword : word ∈ words text) (hc : c ∈ word) :
    c ∈ text ∧ isBlank c = false := by
  induction text generalizing word with
  | nil => simp [words] at hword
  | cons d text ih =>
      have hlater : ∀ {word : List Char}, word ∈ words text → c ∈ word →
          c ∈ d :: text ∧ isBlank c = false :=
        fun hword hc => (ih hword hc).imp_left (List.mem_cons_of_mem d)
      cases hd : isBlank d with
      | true =>
          rw [words_cons_blank hd] at hword
          exact hlater hword hc
      | false =>
          cases hstop : text.head?.all isBlank with
          | true =>
              rw [words_cons_single hd hstop] at hword
              rcases List.mem_cons.mp hword with rfl | hword
              · obtain rfl := List.mem_singleton.mp hc
                exact ⟨List.mem_cons_self .., hd⟩
              · exact hlater hword hc
          | false =>
              obtain ⟨e, text, rfl⟩ : ∃ e rest, text = e :: rest := by
                cases text with
                | nil => simp at hstop
                | cons e rest => exact ⟨e, rest, rfl⟩
              have he : isBlank e = false := by simpa using hstop
              rw [words_cons_glue hd he] at hword
              cases hwords : words (e :: text) with
              | nil => exact absurd hwords (words_ne_nil he text)
              | cons first rest =>
                  rw [hwords] at hword hlater
                  rcases List.mem_cons.mp hword with rfl | hword
                  · rcases List.mem_cons.mp hc with rfl | hc
                    · exact ⟨List.mem_cons_self .., hd⟩
                    · exact hlater (List.mem_cons_self ..) hc
                  · exact hlater (List.mem_cons_of_mem _ hword) hc

/-! ## Normal spellings -/

/-- Text without a blank is its own normal spelling. -/
theorem normalize_of_no_blank {s : String} (hne : s.toList ≠ [])
    (h : ∀ c ∈ s.toList, isBlank c = false) : normalize s = s := by
  rw [normalize, words_of_no_blank hne h, List.intercalate_singleton, String.ofList_toList]

/-- Two texts without a blank and a space between them are a normal spelling. -/
theorem normalize_of_two {s t : String} (hs : s.toList ≠ []) (ht : t.toList ≠ [])
    (hsBlank : ∀ c ∈ s.toList, isBlank c = false) (htBlank : ∀ c ∈ t.toList, isBlank c = false) :
    normalize (s ++ " " ++ t) = s ++ " " ++ t := by
  have htext : (s ++ " " ++ t).toList = s.toList ++ ' ' :: t.toList := by simp [String.toList_append]
  rw [normalize, ← String.toList_inj, String.toList_ofList, htext, words_append_blank (by decide),
    words_of_no_blank hs hsBlank, words_of_no_blank ht htBlank]
  simp

theorem normalize_append_space (s : String) : normalize (s ++ " ") = normalize s := by
  have htext : (s ++ " ").toList = s.toList ++ ' ' :: [] := by simp [String.toList_append]
  rw [normalize, htext, words_append_blank (by decide), words, List.append_nil, normalize]

theorem normalize_space_append (s : String) : normalize (" " ++ s) = normalize s := by
  have htext : (" " ++ s).toList = ' ' :: s.toList := by simp [String.toList_append]
  rw [normalize, htext, words_cons_blank (by decide), normalize]

/-- Nothing, or a single space. -/
def IsGap (gap : List Char) : Prop := gap = [] ∨ gap = [' ']

theorem intercalate_glue {rest : List (List Char)} (h : rest ≠ []) :
    [' '].intercalate (glue c rest) = c :: [' '].intercalate rest := by
  cases rest with
  | nil => exact absurd rfl h
  | cons word rest =>
      cases rest with
      | nil => simp [glue]
      | cons next rest => simp [glue]

theorem intercalate_append {first second : List (List Char)} (hfirst : first ≠ [])
    (hsecond : second ≠ []) :
    [' '].intercalate (first ++ second) =
      [' '].intercalate first ++ ' ' :: [' '].intercalate second := by
  induction first with
  | nil => exact absurd rfl hfirst
  | cons word first ih =>
      cases first with
      | nil =>
          rw [List.singleton_append, List.intercalate_cons_of_ne_nil hsecond,
            List.intercalate_singleton]
          simp
      | cons next first =>
          rw [List.cons_append, List.intercalate_cons_of_ne_nil (by simp), ih (by simp),
            List.intercalate_cons_cons]
          simp only [List.append_assoc]

/-- But for spaces, the normal spelling of a text is made of its characters that are not blank. -/
theorem mem_of_mem_normalize {s : String} (hmem : c ∈ (normalize s).toList) (hc : c ≠ ' ') :
    c ∈ s.toList ∧ isBlank c = false := by
  have hword : ∀ {list : List (List Char)}, c ∈ [' '].intercalate list → ∃ word ∈ list, c ∈ word := by
    intro list hlist
    induction list with
    | nil => cases hlist
    | cons word list ih =>
        cases list with
        | nil => exact ⟨word, List.mem_cons_self .., by simpa using hlist⟩
        | cons next list =>
            rw [List.intercalate_cons_cons, List.append_assoc] at hlist
            rcases List.mem_append.mp hlist with hmem | hmem
            · exact ⟨word, List.mem_cons_self .., hmem⟩
            · obtain ⟨found, hfound, hin⟩ := ih (by simpa [hc] using hmem)
              exact ⟨found, List.mem_cons_of_mem _ hfound, hin⟩
  rw [normalize, String.toList_ofList] at hmem
  obtain ⟨word, hmem, hin⟩ := hword hmem
  exact mem_of_mem_words hmem hin

/-- What comes in front of other words does not depend on them. -/
theorem exists_gap_after (first : List (List Char)) :
    ∃ gap, IsGap gap ∧ (gap = [] → first = []) ∧ ∀ second, second ≠ [] →
      [' '].intercalate (first ++ second) =
        [' '].intercalate first ++ (gap ++ [' '].intercalate second) := by
  cases first with
  | nil => exact ⟨[], .inl rfl, fun _ => rfl, by simp⟩
  | cons word first =>
      exact ⟨[' '], .inr rfl, by simp, fun second hsecond => intercalate_append (by simp) hsecond⟩

/-- What comes after other words does not depend on them. -/
theorem exists_gap_before (second : List (List Char)) :
    ∃ gap, IsGap gap ∧ (gap = [] → second = []) ∧ ∀ first, first ≠ [] →
      [' '].intercalate (first ++ second) =
        [' '].intercalate first ++ (gap ++ [' '].intercalate second) := by
  cases second with
  | nil => exact ⟨[], .inl rfl, fun _ => rfl, by simp⟩
  | cons word second =>
      exact ⟨[' '], .inr rfl, by simp, fun first hfirst => intercalate_append hfirst (by simp)⟩

/-- A character in front of a text comes in front of its normal spelling. -/
theorem exists_gap_cons (hc : isBlank c = false) (text : List Char) :
    ∃ gap, IsGap gap ∧
      [' '].intercalate (words (c :: text)) = c :: (gap ++ [' '].intercalate (words text)) := by
  cases hstop : text.head?.all isBlank with
  | true =>
      rw [words_cons_single hc hstop]
      cases hwords : words text with
      | nil => exact ⟨[], .inl rfl, by simp⟩
      | cons word rest => exact ⟨[' '], .inr rfl, by simp⟩
  | false =>
      cases text with
      | nil => simp at hstop
      | cons d text =>
          have hd : isBlank d = false := by simpa using hstop
          refine ⟨[], .inl rfl, ?_⟩
          rw [words_cons_glue hc hd, intercalate_glue (words_ne_nil hd text)]
          rfl

/-- The normal spelling of a text is empty only if the text is blank. -/
theorem toList_normalize_ne_nil {s : String} (hmem : c ∈ s.toList) (hc : isBlank c = false) :
    (normalize s).toList ≠ [] := by
  have hwords : ∀ text : List Char, c ∈ text → [' '].intercalate (words text) ≠ [] := by
    intro text hmem
    induction text with
    | nil => cases hmem
    | cons d text ih =>
        cases hd : isBlank d with
        | true =>
            have htext : c ∈ text := by
              rcases List.mem_cons.mp hmem with rfl | htext
              · rw [hc] at hd
                cases hd
              · exact htext
            rw [words_cons_blank hd]
            exact ih htext
        | false =>
            obtain ⟨gap, -, hcons⟩ := exists_gap_cons hd text
            simp [hcons]
  rw [normalize, String.toList_ofList]
  exact hwords s.toList hmem

/-- A character at the end of a text comes at the end of its normal spelling. -/
theorem exists_gap_append_singleton (hc : isBlank c = false) (text : List Char) :
    ∃ gap, IsGap gap ∧
      [' '].intercalate (words (text ++ [c])) = [' '].intercalate (words text) ++ gap ++ [c] := by
  rcases words_append_singleton hc text with hwords | ⟨rest, word, htext, hwords⟩
  · obtain ⟨gap, hgap, -, hlast⟩ := exists_gap_after (words text)
    exact ⟨gap, hgap, by rw [hwords, hlast _ (by simp), List.intercalate_singleton,
      List.append_assoc]⟩
  · obtain ⟨gap, -, -, hlast⟩ := exists_gap_after rest
    refine ⟨[], .inl rfl, ?_⟩
    rw [htext, hwords, hlast _ (by simp), hlast _ (by simp)]
    simp

/-- The normal spelling of a group is that of the text inside, but for a space at either end. -/
theorem exists_gaps_group (text : List Char) :
    ∃ lead trail, IsGap lead ∧ IsGap trail ∧
      [' '].intercalate (words ('(' :: (text ++ [')']))) =
        '(' :: (lead ++ ([' '].intercalate (words text) ++ (trail ++ [')']))) := by
  obtain ⟨lead, hlead, hopen⟩ := exists_gap_cons (c := '(') (by decide) (text ++ [')'])
  obtain ⟨trail, htrail, hclose⟩ := exists_gap_append_singleton (c := ')') (by decide) text
  refine ⟨lead, trail, hlead, htrail, ?_⟩
  rw [hopen, hclose]
  simp

/-- **Normal spelling of a negated group.** It is that of the text inside, but for a space at either
end. -/
theorem normalize_group (q : String) :
    ∃ lead trail, IsGap lead ∧ IsGap trail ∧
      (normalize ("-(" ++ q ++ ")")).toList =
        '-' :: '(' :: (lead ++ ((normalize q).toList ++ (trail ++ [')']))) := by
  have htext : ("-(" ++ q ++ ")").toList = '-' :: '(' :: (q.toList ++ [')']) := by
    simp [String.toList_append]
  obtain ⟨lead, trail, hlead, htrail, hgroup⟩ := exists_gaps_group q.toList
  refine ⟨lead, trail, hlead, htrail, ?_⟩
  rw [normalize, normalize, htext, words_cons_glue (by decide) (by decide),
    intercalate_glue (words_ne_nil (by decide) _), hgroup, String.toList_ofList,
    String.toList_ofList]

/-- **Normal spelling between two texts.** A normal spelling between two texts stays as it is, between
their normal spellings and at most one space on either side. -/
theorem normalize_between (first last : String) :
    ∃ lead trail, IsGap lead ∧ IsGap trail ∧ (lead = [] → (normalize first).toList = []) ∧
      (trail = [] → (normalize last).toList = []) ∧ ∀ s : String, normalize s = s → s.toList ≠ [] →
        (normalize (first ++ " " ++ s ++ " " ++ last)).toList =
          (normalize first).toList ++ (lead ++ (s.toList ++ (trail ++ (normalize last).toList))) := by
  have hspace : isBlank ' ' = true := by decide
  obtain ⟨lead, hlead, hfirst, hafter⟩ := exists_gap_after (words first.toList)
  obtain ⟨trail, htrail, hlast, hbefore⟩ := exists_gap_before (words last.toList)
  refine ⟨lead, trail, hlead, htrail, ?_, ?_, ?_⟩
  · intro hgap
    simp [normalize, hfirst hgap]
  · intro hgap
    simp [normalize, hlast hgap]
  · intro s hs hne
    have hspelled : [' '].intercalate (words s.toList) = s.toList := by
      rw [← String.toList_ofList (l := [' '].intercalate (words s.toList))]
      exact congrArg String.toList hs
    have hwords : words s.toList ≠ [] := by
      intro hwords
      rw [hwords] at hspelled
      exact hne hspelled.symm
    have htext : (first ++ " " ++ s ++ " " ++ last).toList =
        first.toList ++ ' ' :: (s.toList ++ ' ' :: last.toList) := by
      simp [String.toList_append]
    simp only [normalize, String.toList_ofList]
    rw [htext, words_append_blank hspace, words_append_blank hspace, hafter _ (by simp [hwords]),
      hbefore _ hwords, hspelled]

/-! ## Blanks and letters -/

/-- The code points of the blanks. -/
def blankCodes : List Nat :=
  [0x9, 0xA, 0xB, 0xC, 0xD, 0x20, 0x85, 0xA0, 0x1680, 0x2000, 0x2001, 0x2002, 0x2003, 0x2004, 0x2005,
    0x2006, 0x2007, 0x2008, 0x2009, 0x200A, 0x2028, 0x2029, 0x202F, 0x205F, 0x3000]

theorem toNat_mem_blankCodes (h : isBlank c = true) : c.toNat ∈ blankCodes := by
  simp only [isBlank, Bool.or_eq_true, Bool.and_eq_true, decide_eq_true_eq, beq_iff_eq] at h
  simp only [blankCodes, List.mem_cons, List.not_mem_nil, or_false]
  omega

/-- Characters of a kind that no blank is of are not blank. -/
theorem isBlank_of_blankCodes {p : Char → Bool}
    (hcodes : ∀ n ∈ blankCodes, p (Char.ofNat n) = false) (h : p c = true) :
    isBlank c = false := by
  cases hc : isBlank c with
  | false => rfl
  | true =>
      have hnot := hcodes c.toNat (toNat_mem_blankCodes hc)
      rw [Char.ofNat_toNat, h] at hnot
      exact hnot

theorem isBlank_of_isAlphanumeric (h : isAlphanumeric c = true) : isBlank c = false :=
  isBlank_of_blankCodes (by decide +kernel) h

end RecordQuery.Text
