import RecordQuery.Proofs.Query.Beginning

/-!
# Matches are local

A blank or the end of a group ends every match, so what is matched before it does not depend on what
follows: but for phrases and regular expressions, which end at the next delimiter only. So what follows
must not close a value that is opened before it, as it cannot if the texts on the two sides share no
delimiter.
-/

namespace RecordQuery.Match

/-! ## Where matches end -/

/-- A character that no match goes past, but for phrases and regular expressions. -/
def isStop (c : Char) : Bool := Text.isBlank c || c == ')'

theorem not_of_isStop {p : Char → Bool} (hcodes : ∀ n ∈ Text.blankCodes, p (Char.ofNat n) = false)
    (hclose : p ')' = false) {c : Char} (hc : isStop c = true) : p c = false := by
  rcases Bool.or_eq_true_iff.mp hc with hblank | hparen
  · have hcode := hcodes c.toNat (Text.toNat_mem_blankCodes hblank)
    rwa [Char.ofNat_toNat] at hcode
  · rwa [eq_of_beq hparen]

/-- The text is empty or starts with a stop. -/
def StartsWithStop (rest : List Char) : Prop := rest.head?.all isStop = true

/-- No quote stands in both texts, and no slash. -/
def Apart (text rest : List Char) : Prop := ∀ c, c = '"' ∨ c = '/' → c ∈ text → c ∉ rest

theorem Apart.of_append {front text rest : List Char} (h : Apart (front ++ text) rest) :
    Apart text rest :=
  fun c hc hmem => h c hc (List.mem_append_right _ hmem)

variable {text rest : List Char}

theorem StartsWithStop.all_not {p : Char → Bool} (hrest : StartsWithStop rest)
    (hcodes : ∀ n ∈ Text.blankCodes, p (Char.ofNat n) = false) (hclose : p ')' = false) :
    rest.head?.all (!p ·) = true := by
  cases rest with
  | nil => rfl
  | cons c rest => simpa using not_of_isStop hcodes hclose (by simpa [StartsWithStop] using hrest)

theorem StartsWithStop.head?_ne (hrest : StartsWithStop rest) {c : Char} (hc : isStop c = false) :
    rest.head? ≠ some c := by
  intro hhead
  rw [StartsWithStop, hhead] at hrest
  simp [hc] at hrest

theorem StartsWithStop.isKeyChar (hrest : StartsWithStop rest) :
    rest.head?.all (!Match.isKeyChar ·) = true :=
  hrest.all_not (by decide +kernel) (by decide +kernel)

theorem StartsWithStop.isWordChar (hrest : StartsWithStop rest) :
    rest.head?.all (!Match.isWordChar ·) = true :=
  hrest.all_not (by decide +kernel) (by decide +kernel)

theorem StartsWithStop.isLiteralChar (hrest : StartsWithStop rest) :
    rest.head?.all (!Literal.isLiteralChar ·) = true :=
  hrest.all_not (by decide +kernel) (by decide +kernel)

/-- A run that ends before the rest is the same with the rest. -/
theorem takeWhile_append_rest {p : Char → Bool} (text : List Char)
    (hrest : rest.head?.all (!p ·) = true) :
    (text ++ rest).takeWhile p = text.takeWhile p ∧
      (text ++ rest).dropWhile p = text.dropWhile p ++ rest := by
  induction text with
  | nil => simpa using takeWhile_append_of_stop (List.forall_mem_nil _) hrest
  | cons c text ih =>
      cases hc : p c with
      | true => simpa [hc] using ih
      | false => simp [hc]

/-! ## Keys and comparisons -/

theorem key?_append (hrest : StartsWithStop rest) (text : List Char) :
    key? (text ++ rest) = (key? text).map fun (key, after) => (key, after ++ rest) := by
  cases text with
  | nil =>
      cases rest with
      | nil => rfl
      | cons c rest =>
          have hc : isStop c = true := by simpa [StartsWithStop] using hrest
          have hstart := not_of_isStop (p := isKeyStart) (by decide +kernel) (by decide +kernel) hc
          exact key?_cons_eq_none hstart rest
  | cons c text =>
      obtain ⟨htake, hdrop⟩ := takeWhile_append_rest text hrest.isKeyChar
      rw [List.cons_append, key?, key?, htake, hdrop]
      split <;> rfl

theorem comparison?_append (hrest : StartsWithStop rest) (text : List Char) :
    comparison? (text ++ rest) = (comparison? text).map fun (c, after) => (c, after ++ rest) := by
  cases text with
  | nil =>
      cases rest with
      | nil => rfl
      | cons d rest =>
          have hne : ∀ c, isStop c = false → d ≠ c := fun c hc => by simpa using hrest.head?_ne hc
          simp [comparison?, hne '>' (by decide), hne '<' (by decide), hne ':' (by decide),
            hne '=' (by decide)]
  | cons c text =>
      rw [List.cons_append]
      -- Only after an angle does the next character matter, and no stop is an equals sign.
      have hangle : ∀ c, c = '>' ∨ c = '<' →
          comparison? (c :: (text ++ rest)) =
            (comparison? (c :: text)).map fun (c, after) => (c, after ++ rest) := by
        intro c hc
        cases text with
        | nil =>
            cases rest with
            | nil => rcases hc with rfl | rfl <;> rfl
            | cons d rest =>
                have hd : d ≠ '=' := by simpa using hrest.head?_ne (c := '=') (by decide)
                rcases hc with rfl | rfl <;> simp [comparison?, hd]
        | cons d text =>
            by_cases hd : d = '='
            · subst hd
              rcases hc with rfl | rfl <;> rfl
            · rcases hc with rfl | rfl <;> simp [comparison?, hd]
      by_cases hcolon : c = ':'
      · subst hcolon
        rfl
      by_cases hsign : c = '='
      · subst hsign
        rfl
      by_cases hc : c = '>' ∨ c = '<'
      · exact hangle c hc
      · obtain ⟨hgreater, hless⟩ := not_or.mp hc
        simp [comparison?, hcolon, hsign, hgreater, hless]

/-! ## Values -/

/-- What is enclosed in delimiters lies before the rest if it starts there. -/
theorem Apart.enclosed (hrest : StartsWithStop rest) (hapart : Apart text rest) {d : Char}
    (hd : d = '"' ∨ d = '/') {s after : List Char} (h : text ++ rest = d :: (s ++ d :: after)) :
    ∃ after', text = d :: (s ++ d :: after') := by
  cases text with
  | nil =>
      have hne : rest.head? ≠ some d := by
        rcases hd with rfl | rfl
        · exact hrest.head?_ne (by decide)
        · exact hrest.head?_ne (by decide)
      have hhead : rest = d :: (s ++ d :: after) := h
      simp [hhead] at hne
  | cons c text =>
      obtain ⟨rfl, htext⟩ := List.cons_eq_cons.mp h
      have hmem : c ∉ rest := hapart c hd (List.mem_cons_self ..)
      -- The delimiter at the end cannot lie in the rest, as the one at the start lies in the text.
      rcases List.append_eq_append_iff.mp htext with ⟨tail, -, hafter⟩ | ⟨tail, rfl, hafter⟩
      · simp [hafter] at hmem
      · cases tail with
        | nil => simp [← show c :: after = rest from hafter] at hmem
        | cons e tail =>
            obtain ⟨rfl, -⟩ := List.cons_eq_cons.mp hafter
            exact ⟨tail, rfl⟩

/-- The rest closes no phrase or regular expression that the text starts with. -/
structure Settled (text rest : List Char) : Prop where
  phrase : phrase? (text ++ rest) = phrase? text
  regex : regex? (text ++ rest) = regex? text

/-- The rest closes no value that the text starts with, by itself or after a key. -/
structure SettledAt (text rest : List Char) : Prop where
  unkeyed : Settled text rest
  keyed : ∀ key after, key? text = some (key, ':' :: after) → Settled after rest

theorem phrase?_append (hrest : StartsWithStop rest) (hapart : Apart text rest) :
    phrase? (text ++ rest) = phrase? text := by
  refine Option.ext fun v => ?_
  rw [phrase?_eq_some_iff, phrase?_eq_some_iff]
  constructor
  · rintro ⟨s, after, htext, hs, rfl⟩
    obtain ⟨after', rfl⟩ := hapart.enclosed hrest (.inl rfl) htext
    exact ⟨s, after', rfl, hs, rfl⟩
  · rintro ⟨s, after, rfl, hs, rfl⟩
    exact ⟨s, after ++ rest, by simp, hs, rfl⟩

theorem regex?_append (hrest : StartsWithStop rest) (hapart : Apart text rest) :
    regex? (text ++ rest) = regex? text := by
  refine Option.ext fun v => ?_
  rw [regex?_eq_some_iff, regex?_eq_some_iff]
  constructor
  · rintro ⟨s, after, htext, hs, rfl⟩
    obtain ⟨after', rfl⟩ := hapart.enclosed hrest (.inr rfl) htext
    exact ⟨s, after', rfl, hs, rfl⟩
  · rintro ⟨s, after, rfl, hs, rfl⟩
    exact ⟨s, after ++ rest, by simp, hs, rfl⟩

theorem Apart.settledAt (hrest : StartsWithStop rest) (hapart : Apart text rest) :
    SettledAt text rest where
  unkeyed := ⟨phrase?_append hrest hapart, regex?_append hrest hapart⟩
  keyed := by
    intro key after hkey
    obtain ⟨rfl, -, -⟩ := key?_eq_some_iff.mp hkey
    have hfront : Apart ((key ++ [':']) ++ after) rest := by simpa using hapart
    exact ⟨phrase?_append hrest hfront.of_append, regex?_append hrest hfront.of_append⟩

theorem word?_append_rest (hrest : StartsWithStop rest) (text : List Char) :
    word? (text ++ rest) = word? text := by
  cases text with
  | nil =>
      cases rest with
      | nil => rfl
      | cons d rest =>
          have hne : ∀ c, isStop c = false → d ≠ c := fun c hc => by simpa using hrest.head?_ne hc
          have hword : isWordChar d = false := by simpa using hrest.isWordChar
          simp [word?, hne '&' (by decide), hne '|' (by decide), hne '-' (by decide),
            hne '!' (by decide), hword]
  | cons c text =>
      rw [List.cons_append, word?, word?, (takeWhile_append_rest text hrest.isWordChar).1]

theorem value?_append (hrest : StartsWithStop rest) (h : Settled text rest) :
    value? (text ++ rest) = value? text := by
  rw [value?, value?, h.phrase, h.regex, word?_append_rest hrest]

/-! ## Kinds of matches -/

theorem openGroup?_append (hne : text ≠ []) (hrest : StartsWithStop rest) (before : Option Char) :
    openGroup? before (text ++ rest) = openGroup? before text := by
  cases text with
  | nil => exact absurd rfl hne
  | cons c text =>
      cases text with
      | nil =>
          cases rest with
          | nil => rfl
          | cons d rest =>
              have hd : d ≠ '(' := by simpa using hrest.head?_ne (c := '(') (by decide)
              by_cases hc : c = '('
              · subst hc
                rfl
              · simp [openGroup?, hc, hd]
      | cons d text =>
          by_cases hc : c = '('
          · subst hc
            rfl
          · by_cases hd : d = '('
            · subst hd
              by_cases hsign : c = '-' ∨ c = '!'
              · rcases hsign with rfl | rfl <;> rfl
              · obtain ⟨hhyphen, hmark⟩ := not_or.mp hsign
                simp [openGroup?, hc, hhyphen, hmark]
            · simp [openGroup?, hc, hd]

theorem closeGroup?_append (hne : text ≠ []) (rest : List Char) :
    closeGroup? (text ++ rest) = closeGroup? text := by
  cases text with
  | nil => exact absurd rfl hne
  | cons c text =>
      by_cases hc : c = ')'
      · subst hc
        rfl
      · simp [closeGroup?, hc]

theorem negation?_append (hne : text ≠ []) (hrest : StartsWithStop rest) :
    negation? (text ++ rest) = negation? text := by
  cases text with
  | nil => exact absurd rfl hne
  | cons c text =>
      rw [List.cons_append, negation?, negation?]
      cases text with
      | nil => simp [hrest.head?_ne (c := '(') (by decide)]
      | cons d text => rfl

theorem range?_append (hrest : StartsWithStop rest) (text : List Char) :
    range? (text ++ rest) = range? text := by
  rw [range?, range?, key?_append hrest]
  cases key? text with
  | none => rfl
  | some found =>
      obtain ⟨key, after⟩ := found
      simp only [Option.map_some, Option.bind_eq_bind, Option.bind_some, comparison?_append hrest]
      cases comparison? after with
      | none => rfl
      | some found =>
          obtain ⟨c, after⟩ := found
          simp only [Option.map_some, Option.bind_some,
            (takeWhile_append_rest after hrest.isLiteralChar).1]

theorem compared?_append (hrest : StartsWithStop rest) (text : List Char) :
    compared? (text ++ rest) = compared? text := by
  rw [compared?, compared?, key?_append hrest]
  cases key? text with
  | none => rfl
  | some found =>
      obtain ⟨key, after⟩ := found
      simp only [Option.map_some, Option.bind_eq_bind, Option.bind_some, comparison?_append hrest]
      cases comparison? after with
      | none => rfl
      | some found =>
          obtain ⟨c, after⟩ := found
          simp only [Option.map_some, Option.bind_some,
            (takeWhile_append_rest after hrest.isLiteralChar).1]

theorem keyed?_append (hrest : StartsWithStop rest) (h : SettledAt text rest) :
    keyed? (text ++ rest) = keyed? text := by
  rw [keyed?, keyed?, key?_append hrest]
  cases hkey : key? text with
  | none => rfl
  | some found =>
      obtain ⟨key, after⟩ := found
      simp only [Option.map_some, Option.bind_eq_bind, Option.bind_some]
      cases after with
      | nil =>
          cases rest with
          | nil => rfl
          | cons d rest =>
              have hd : d ≠ ':' := by simpa using hrest.head?_ne (c := ':') (by decide)
              simp [hd]
      | cons d after =>
          by_cases hd : d = ':'
          · subst hd
            simp only [List.cons_append, value?_append hrest (h.keyed key after hkey)]
          · simp [hd]

theorem term?_append (rules : Rules) (hrest : StartsWithStop rest) (h : SettledAt text rest) :
    term? rules (text ++ rest) = term? rules text := by
  rw [term?, term?, keyed?_append hrest h, unkeyed?, unkeyed?, value?_append hrest h.unkeyed]

/-- **Matches are local.** What is matched in a text does not depend on what follows it, if that starts
with a blank or the end of a group and closes no value that the text starts with. -/
theorem at?_append (rules : Rules) (before : Option Char) (hne : text ≠ [])
    (hrest : StartsWithStop rest) (h : SettledAt text rest) :
    at? rules before (text ++ rest) = at? rules before text := by
  rw [at?, at?, openGroup?_append hne hrest, closeGroup?_append hne, negation?_append hne hrest,
    range?_append hrest, compared?_append hrest, term?_append rules hrest h]

end RecordQuery.Match

namespace RecordQuery.Segment

/-- A text without quotes and slashes that is a match by itself is read as that match in front of a stop. -/
theorem Reads.of_at? {rules : Rules} {before : Option Char}
    {piece rest : List Char} {m : Match} {kinds : List Token.Kind} (hne : piece ≠ [])
    (hplain : ∀ c ∈ piece, c ≠ '"' ∧ c ≠ '/') (hblank : piece.head?.any Text.isBlank = false)
    (hm : Match.at? rules before piece = some m) (hlength : piece.length = m.length)
    (hkinds : m.reading = .tokens kinds) (hkey : m.key.all rules.accepts = true)
    (hrest : Match.StartsWithStop rest) : Reads rules before piece rest kinds := by
  have hapart : Match.Apart piece rest := by
    rintro c (rfl | rfl) hc
    · exact absurd rfl (hplain _ hc).1
    · exact absurd rfl (hplain _ hc).2
  rw [← Match.at?_append rules before hne hrest (hapart.settledAt hrest)] at hm
  exact .found hne hblank hm hlength hkinds hkey

end RecordQuery.Segment
