import Mathlib.Data.List.Infix
import RecordQuery.Text.Lowercase
import RecordQuery.Text.Parts

/-!
# Lower case in context

A capital sigma is lowered by what stands around it, every other character by itself. The lower-case form of
a text is found in that of each text that holds it exactly if the text by itself settles the forms of all its
capital sigmas.
-/

namespace RecordQuery.Text

variable {before after text : List Char}

/-- Text stands in another as one piece of it. -/
theorem isInfix_iff {part : List Char} : isInfix part text = true ↔ part <:+: text := by
  induction text with
  | nil => simp [isInfix]
  | cons c text ih =>
      rw [isInfix, Bool.or_eq_true, List.isPrefixOf_iff_prefix, ih, List.infix_cons_iff]

/-! ## Cased letters around a place -/

/-- Whether the first character that is not ignorable is cased, if there is one. -/
def firstCased? (text : List Char) : Option Bool := (text.dropWhile isCaseIgnorable).head?.map isCased

theorem meetsCased_append (text rest : List Char) :
    meetsCased (text ++ rest) = (firstCased? text).getD (meetsCased rest) := by
  rw [meetsCased, List.dropWhile_append, firstCased?]
  cases h : text.dropWhile isCaseIgnorable with
  | nil => rfl
  | cons c tail => rfl

theorem meetsCased_eq (text : List Char) : meetsCased text = (firstCased? text).getD false := by
  simpa [meetsCased] using meetsCased_append text []

/-- A cased letter that is met is met whatever follows. -/
theorem meetsCased_append_of_meetsCased (h : meetsCased text = true) (rest : List Char) :
    meetsCased (text ++ rest) = true := by
  rw [meetsCased_eq] at h
  rw [meetsCased_append]
  cases hfirst : firstCased? text with
  | none => simp [hfirst] at h
  | some cased => simpa [hfirst] using h

/-- Whether a capital sigma is final: a cased letter stands in front of it, and none behind. -/
def isFinal (before after : List Char) : Bool := meetsCased before && !meetsCased after

/-- Whether the first characters on both sides settle the form of a capital sigma, whatever is beyond. -/
def settlesSigma : (before after : Option Bool) → Bool
  | some false, _ | _, some true | some true, some false => true
  | _, _ => false

theorem settlesSigma_eq {b a : Option Bool} (h : settlesSigma b a = true) (x y : Bool) :
    (b.getD x && !a.getD y) = (b.getD false && !a.getD false) := by
  rcases b with _ | _ | _ <;> rcases a with _ | _ | _ <;> simp [settlesSigma] at h ⊢

theorem settlesSigma_cases {b a : Option Bool} (h : settlesSigma b a = false) :
    b = some true ∧ a = none ∨ b = none ∧ a.getD false = false := by
  rcases b with _ | _ | _ <;> rcases a with _ | _ | _ <;> simp [settlesSigma] at h ⊢

/-! ## The lower-case form of a part -/

/-- The lower-case form of a character, which is final if it is a capital sigma and `final` holds. -/
def lowerCharAs (final : Bool) (c : Char) : List Char :=
  if c = capitalSigma then if final then ['\u03C2'] else ['\u03C3'] else lowerChar c

/-- The lower-case form of a text between two others, the first of them from its end on. -/
def lowerBetween (before after : List Char) : List Char → List Char
  | [] => []
  | c :: rest => lowerCharAs (isFinal before (rest ++ after)) c ++ lowerBetween (c :: before) after rest

theorem lowerAfter_eq (before text : List Char) : lowerAfter before text = lowerBetween before [] text := by
  induction text generalizing before with
  | nil => rfl
  | cons c rest ih => simp [lowerAfter, lowerBetween, lowerCharAs, isFinal, ih]

theorem lowerBetween_append (before after text rest : List Char) :
    lowerBetween before after (text ++ rest) =
      lowerBetween before (rest ++ after) text ++ lowerBetween (text.reverse ++ before) after rest := by
  induction text generalizing before with
  | nil => rfl
  | cons c text ih => simp [lowerBetween, ih]

/-! ## Texts that settle their sigmas -/

/-- Whether the capital sigmas of a text have the same forms wherever it stands behind `before`. -/
def isSettledAfter (before : List Char) : List Char → Bool
  | [] => true
  | c :: rest =>
    (c != capitalSigma || settlesSigma (firstCased? before) (firstCased? rest)) &&
      isSettledAfter (c :: before) rest

/-- Whether the capital sigmas of a text have the same forms wherever it stands. -/
def isSettled (text : String) : Bool := isSettledAfter [] text.toList

/-- What stands around such a text does not change its lower-case form. -/
theorem lowerBetween_of_settled (h : isSettledAfter before text = true) (front after : List Char) :
    lowerBetween (before ++ front) after text = lowerBetween before [] text := by
  induction text generalizing before with
  | nil => rfl
  | cons c rest ih =>
      rw [isSettledAfter, Bool.and_eq_true, Bool.or_eq_true, bne_iff_ne] at h
      obtain ⟨hchar, hrest⟩ := h
      have hhead : lowerCharAs (isFinal (before ++ front) (rest ++ after)) c =
          lowerCharAs (isFinal before (rest ++ [])) c := by
        rcases hchar with hchar | hsettled
        · simp [lowerCharAs, hchar]
        · rw [isFinal, meetsCased_append, meetsCased_append, settlesSigma_eq hsettled, isFinal,
            meetsCased_eq before, List.append_nil, meetsCased_eq rest]
      rw [lowerBetween, lowerBetween, hhead, ← ih hrest, List.cons_append]

/-- Otherwise some capital sigma depends on what stands around the text. -/
theorem exists_of_not_settled (h : isSettledAfter before text = false) :
    ∃ front rest, text = front ++ capitalSigma :: rest ∧
      settlesSigma (firstCased? (front.reverse ++ before)) (firstCased? rest) = false := by
  induction text generalizing before with
  | nil => cases h
  | cons c text ih =>
      rw [isSettledAfter, Bool.and_eq_false_iff, Bool.or_eq_false_iff] at h
      rcases h with ⟨hchar, hsettled⟩ | hrest
      · obtain rfl : c = capitalSigma := by simpa using hchar
        exact ⟨[], text, rfl, hsettled⟩
      · obtain ⟨front, rest, rfl, hsettled⟩ := ih hrest
        exact ⟨c :: front, rest, rfl, by simpa using hsettled⟩

/-! ## Counting sigmas -/

theorem count_lowerCharAs {f f' : Bool} (h : f' = true → f = true) (c : Char) :
    (lowerCharAs f' c).count '\u03C2' ≤ (lowerCharAs f c).count '\u03C2' ∧
      (lowerCharAs f c).count '\u03C3' ≤ (lowerCharAs f' c).count '\u03C3' := by
  by_cases hc : c = capitalSigma
  · subst hc
    revert f f'
    decide
  · simp [lowerCharAs, hc]

/-- With more behind the text, it has no more final sigmas. -/
theorem count_lowerBetween_after (before after more text : List Char) :
    (lowerBetween before (after ++ more) text).count '\u03C2' ≤
      (lowerBetween before after text).count '\u03C2' := by
  induction text generalizing before with
  | nil => exact Nat.le_refl _
  | cons c rest ih =>
      rw [lowerBetween, lowerBetween, List.count_append, List.count_append]
      refine Nat.add_le_add (count_lowerCharAs ?_ c).1 (ih (c :: before))
      intro hfinal
      obtain ⟨hbefore, hafter⟩ := Bool.and_eq_true_iff.mp hfinal
      refine Bool.and_eq_true_iff.mpr ⟨hbefore, ?_⟩
      cases hmeets : meetsCased (rest ++ after) with
      | false => rfl
      | true =>
          rw [← List.append_assoc, meetsCased_append_of_meetsCased hmeets] at hafter
          cases hafter

/-- With more in front of the text, it has no more sigmas that are not final. -/
theorem count_lowerBetween_before (before after more text : List Char) :
    (lowerBetween (before ++ more) after text).count '\u03C3' ≤
      (lowerBetween before after text).count '\u03C3' := by
  induction text generalizing before with
  | nil => exact Nat.le_refl _
  | cons c rest ih =>
      rw [lowerBetween, lowerBetween, List.count_append, List.count_append]
      refine Nat.add_le_add (count_lowerCharAs ?_ c).2 (ih (c :: before))
      intro hfinal
      obtain ⟨hbefore, hafter⟩ := Bool.and_eq_true_iff.mp hfinal
      exact Bool.and_eq_true_iff.mpr ⟨meetsCased_append_of_meetsCased hbefore more, hafter⟩

/-- It has fewer if a capital sigma was final and is no longer. -/
theorem count_lowerBetween_after_lt {front rest more : List Char}
    (hfinal : isFinal (front.reverse ++ before) (rest ++ after) = true)
    (hmore : isFinal (front.reverse ++ before) (rest ++ (after ++ more)) = false) :
    (lowerBetween before (after ++ more) (front ++ capitalSigma :: rest)).count '\u03C2' <
      (lowerBetween before after (front ++ capitalSigma :: rest)).count '\u03C2' := by
  have hfront := count_lowerBetween_after before (capitalSigma :: (rest ++ after)) more front
  have hrest := count_lowerBetween_after (capitalSigma :: (front.reverse ++ before)) after more rest
  have hone : (lowerCharAs true capitalSigma).count '\u03C2' = 1 := by decide
  have hnone : (lowerCharAs false capitalSigma).count '\u03C2' = 0 := by decide
  simp only [List.cons_append, List.append_assoc] at hfront
  simp only [lowerBetween_append, lowerBetween, hfinal, hmore, List.count_append, hone, hnone,
    List.cons_append]
  omega

/-- It has fewer if a capital sigma was not final and is now. -/
theorem count_lowerBetween_before_lt {front rest more : List Char}
    (hfinal : isFinal (front.reverse ++ before) (rest ++ after) = false)
    (hmore : isFinal (front.reverse ++ (before ++ more)) (rest ++ after) = true) :
    (lowerBetween (before ++ more) after (front ++ capitalSigma :: rest)).count '\u03C3' <
      (lowerBetween before after (front ++ capitalSigma :: rest)).count '\u03C3' := by
  have hfront := count_lowerBetween_before before (capitalSigma :: (rest ++ after)) more front
  have hrest := count_lowerBetween_before (capitalSigma :: (front.reverse ++ before)) after more rest
  have hone : (lowerCharAs false capitalSigma).count '\u03C3' = 1 := by decide
  have hnone : (lowerCharAs true capitalSigma).count '\u03C3' = 0 := by decide
  simp only [List.cons_append, List.append_assoc] at hrest
  simp only [lowerBetween_append, lowerBetween, hfinal, hmore, List.count_append, hone, hnone,
    List.cons_append]
  omega

/-! ## Parts of a text -/

/-- The lower-case form of a text that stands in another stands in the other's. -/
theorem lowerAfter_append_append (front text rest : List Char) :
    lowerAfter [] (front ++ (text ++ rest)) =
      lowerBetween [] (text ++ rest) front ++ (lowerBetween front.reverse rest text ++
        lowerBetween (text.reverse ++ front.reverse) [] rest) := by
  rw [lowerAfter_eq, lowerBetween_append, lowerBetween_append]
  simp

theorem infix_of_settled {part : List Char} (h : isSettledAfter [] part = true)
    (hpart : part <:+: text) : lowerAfter [] part <:+: lowerAfter [] text := by
  obtain ⟨front, rest, rfl⟩ := hpart
  have hform := lowerBetween_of_settled h front.reverse rest
  rw [List.append_assoc, lowerAfter_append_append, lowerAfter_eq, ← hform]
  exact ⟨_, _, List.append_assoc ..⟩

/-- What is known of both sides tells whether a capital sigma is final. -/
theorem isFinal_append (front lead rest trail : List Char) :
    isFinal (front ++ lead) (rest ++ trail) =
      ((firstCased? front).getD (meetsCased lead) && !(firstCased? rest).getD (meetsCased trail)) := by
  rw [isFinal, meetsCased_append, meetsCased_append]

theorem meetsCased_letter : meetsCased ['a'] = true := by decide

theorem lowerAfter_letter_behind (text : List Char) :
    lowerAfter [] (text ++ ['a']) = lowerBetween [] ['a'] text ++ ['a'] := by
  rw [lowerAfter_eq, lowerBetween_append]
  rfl

theorem lowerAfter_letter_in_front (text : List Char) :
    lowerAfter [] ('a' :: text) = 'a' :: lowerBetween ['a'] [] text := by
  rw [lowerAfter_eq]
  rfl

/-- A letter behind the text takes a final sigma away. -/
theorem not_infix_letter_behind {front rest : List Char} (hfront : firstCased? front.reverse = some true)
    (hrest : firstCased? rest = none) :
    ¬ lowerAfter [] (front ++ capitalSigma :: rest) <:+:
      lowerAfter [] (front ++ capitalSigma :: rest ++ ['a']) := by
  intro hinfix
  have hlt : (lowerBetween [] ([] ++ ['a']) (front ++ capitalSigma :: rest)).count '\u03C2' <
      (lowerBetween [] [] (front ++ capitalSigma :: rest)).count '\u03C2' := by
    refine count_lowerBetween_after_lt ?_ ?_
    · rw [isFinal_append, hfront, hrest]
      rfl
    · rw [isFinal_append, hfront, hrest, List.nil_append, meetsCased_letter]
      rfl
  have hle := hinfix.sublist.count_le '\u03C2'
  rw [lowerAfter_eq, lowerAfter_letter_behind, List.count_append] at hle
  exact absurd hle (Nat.not_le_of_lt hlt)

/-- A letter in front of it makes a sigma final. -/
theorem not_infix_letter_in_front {front rest : List Char} (hfront : firstCased? front.reverse = none)
    (hrest : (firstCased? rest).getD false = false) :
    ¬ lowerAfter [] (front ++ capitalSigma :: rest) <:+:
      lowerAfter [] ('a' :: (front ++ capitalSigma :: rest)) := by
  intro hinfix
  have hlt : (lowerBetween ([] ++ ['a']) [] (front ++ capitalSigma :: rest)).count '\u03C3' <
      (lowerBetween [] [] (front ++ capitalSigma :: rest)).count '\u03C3' := by
    refine count_lowerBetween_before_lt ?_ ?_
    · rw [isFinal_append, hfront]
      rfl
    · rw [isFinal_append, hfront, List.nil_append, meetsCased_letter,
        show meetsCased [] = false from rfl, hrest]
      rfl
  have hle := hinfix.sublist.count_le '\u03C3'
  rw [lowerAfter_eq, lowerAfter_letter_in_front, List.count_cons_of_ne (by decide)] at hle
  exact absurd hle (Nat.not_le_of_lt hlt)

/-- If some capital sigma depends on what stands around the text, the text is not found in lower case next
to a letter on one of its sides. -/
theorem exists_not_infix {part : List Char} (h : isSettledAfter [] part = false) :
    ∃ text, part <:+: text ∧ ¬ lowerAfter [] part <:+: lowerAfter [] text := by
  obtain ⟨front, rest, rfl, hsettled⟩ := exists_of_not_settled h
  rw [List.append_nil] at hsettled
  rcases settlesSigma_cases hsettled with ⟨hfront, hrest⟩ | ⟨hfront, hrest⟩
  · exact ⟨_, (List.prefix_append ..).isInfix, not_infix_letter_behind hfront hrest⟩
  · exact ⟨_, (List.suffix_cons ..).isInfix, not_infix_letter_in_front hfront hrest⟩

/-- **Texts in lower case.** A text settles the forms of its capital sigmas exactly if its lower-case form
stands in that of each text in which it stands. -/
theorem isSettled_iff (part : String) :
    isSettled part = true ↔ ∀ text : String, isInfix part.toList text.toList = true →
      isInfix (lowercase part).toList (lowercase text).toList = true := by
  simp only [isInfix_iff, lowercase, String.toList_ofList, isSettled]
  constructor
  · exact fun h text hpart => infix_of_settled h hpart
  · intro h
    cases hsettled : isSettledAfter [] part.toList with
    | true => rfl
    | false =>
        obtain ⟨text, hpart, hnot⟩ := exists_not_infix hsettled
        refine absurd (h (String.ofList text) ?_) ?_
        · rwa [String.toList_ofList]
        · rwa [String.toList_ofList]

end RecordQuery.Text
