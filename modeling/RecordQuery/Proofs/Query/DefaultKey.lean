import RecordQuery.Proofs.Query.AllowList

/-!
# Terms without a key

A default key changes nothing in how a text is read but the key of the terms that are written without one.
So the terms under any rules are those that the text has under the plain ones, the default key put on those
without a key, and then the allow-list; and at the place of a term without a key the only report that can
stand is that the default key is not allowed.
-/

namespace RecordQuery

variable {key : Option String}

/-- The term under `key` if it has no key of its own. -/
def Term.under (key : Option String) : Term → Term
  | text none form s => text key form s
  | x => x

/-- A term without a key under `key`; any other match stays as it is. -/
def Match.under (key : Option String) (m : Match) : Match :=
  match m.key, m.reading with
  | none, .tokens [.term (.text none form s)] =>
    { m with key, reading := .tokens [.term (.text key form s)] }
  | _, _ => m

namespace Match

variable {text : List Char} {m : Match}

/-! ## Matches -/

theorem length_under (m : Match) : (m.under key).length = m.length := by
  unfold under
  split <;> rfl

/-- What keeps the length of the candidates keeps which of them is the longest. -/
theorem longest_map {α : Type} {size : α → Nat} {f : α → α} (hsize : ∀ x, size (f x) = size x)
    (candidates : List (Option α)) :
    longest size (candidates.map (Option.map f)) = (longest size candidates).map f := by
  have hbetter : ∀ best next : Option α,
      better size (best.map f) (next.map f) = (better size best next).map f := by
    intro best next
    cases best with
    | none => rfl
    | some b =>
        cases next with
        | none => rfl
        | some n =>
            simp only [better, Option.map_some, hsize]
            split <;> rfl
  have hfold : ∀ (cs : List (Option α)) (best : Option α),
      (cs.map (Option.map f)).foldl (better size) (best.map f) =
        (cs.foldl (better size) best).map f := by
    intro cs
    induction cs with
    | nil =>
        intro best
        rfl
    | cons next cs ih =>
        intro best
        rw [List.map_cons, List.foldl_cons, List.foldl_cons, hbetter, ih]
  exact hfold candidates none

/-- The signs have no key, and are no terms. -/
theorem map_under_signs (key : Option String) (before : Option Char) (text : List Char) :
    (openGroup? before text).map (under key) = openGroup? before text ∧
      (closeGroup? text).map (under key) = closeGroup? text ∧
      (negation? text).map (under key) = negation? text := by
  refine ⟨?_, ?_, ?_⟩
  · unfold openGroup?
    split
    · split <;> rfl
    · rfl
  · unfold closeGroup?
    split <;> rfl
  · unfold negation?
    split
    · split <;> rfl
    · rfl

/-- Literals stand behind a key. -/
theorem map_under_literals (key : Option String) (text : List Char) :
    (range? text).map (under key) = range? text ∧
      (compared? text).map (under key) = compared? text := by
  constructor
  · cases h : range? text with
    | none => rfl
    | some m =>
        obtain ⟨k, _, _, _, _, _, -, -, -, -, -, -, -, rfl⟩ := exists_of_range? h
        rfl
  · cases h : compared? text with
    | none => rfl
    | some m =>
        obtain ⟨k, _, _, _, -, -, -, -, -, rfl⟩ := exists_of_compared? h
        rfl

theorem map_under_keyed? (key : Option String) (text : List Char) :
    (keyed? text).map (under key) = keyed? text := by
  cases h : keyed? text with
  | none => rfl
  | some m =>
      obtain ⟨⟨k, rest⟩, -, hrest⟩ := Option.bind_eq_some_iff.mp h
      dsimp only at hrest
      split at hrest
      · obtain ⟨v, -, hm⟩ := Option.bind_eq_some_iff.mp hrest
        obtain rfl := Option.some.inj hm
        rfl
      · cases hrest

/-- A value without a key takes the default key, unless it is a joiner. -/
theorem unkeyed?_eq_map (rules : Rules) (text : List Char) :
    unkeyed? rules text = (unkeyed? {} text).map (under rules.defaultKey) := by
  unfold unkeyed?
  cases value? text with
  | none => rfl
  | some v =>
      simp only [Option.bind_eq_bind, Option.bind_some]
      split <;> rfl

/-- Under a default key the same is matched, but for the key of a term without one. -/
theorem at?_eq_map (rules : Rules) (before : Option Char) (text : List Char) :
    at? rules before text = (at? {} before text).map (under rules.defaultKey) := by
  obtain ⟨hopen, hclose, hnegation⟩ := map_under_signs rules.defaultKey before text
  obtain ⟨hrange, hcompared⟩ := map_under_literals rules.defaultKey text
  have hterm : term? rules text = (term? {} text).map (under rules.defaultKey) := by
    rw [term?, term?, unkeyed?_eq_map]
    have hkeyed := map_under_keyed? rules.defaultKey text
    cases h : keyed? text with
    | none => rfl
    | some m =>
        rw [h] at hkeyed
        exact hkeyed.symm
  rw [at?, at?, ← longest_map length_under]
  simp only [List.map_cons, List.map_nil, hopen, hclose, hnegation, hrange, hcompared, hterm]

/-- The terms that the match stands for change alike. -/
theorem Spells.terms_under {piece : List Char} (h : Spells {} piece m) :
    (m.under key).reading.terms = m.reading.terms.map (Term.under key) := by
  cases h with
  | openGroup | negatedGroup _ | closeGroup | negation _ | joiner _ => rfl
  | malformed _ _ | malformedRange _ _ _ => rfl
  | unkeyed _ | keyed _ _ | number _ _ | date _ _ _ _ => rfl
  | period _ _ _ _ | periodRange _ _ _ _ | numberRange _ _ _ _ => rfl

/-- A term without a key is all that its match stands for. -/
theorem Spells.eq_of_keyless {piece : List Char} {form : Form} {s : String} (h : Spells {} piece m)
    (hx : Term.text none form s ∈ m.reading.terms) :
    ∀ key, m.under key =
      { length := m.length, key, value := s, reading := .tokens [.term (.text key form s)] } := by
  cases h <;> simp [Reading.terms, sign, ofValue, ofLiteral, periodTokens] at hx
  case unkeyed v hv =>
    obtain ⟨rfl, rfl⟩ := hx
    intro key
    rfl

end Match

namespace Segment

variable {rules : Rules}

/-! ## Segments -/

def Content.under (key : Option String) : Content → Content
  | found m => found (m.under key)
  | content => content

def under (key : Option String) (s : Segment) : Segment := ⟨s.position, s.content.under key⟩

theorem Content.at_eq_under (rules : Rules) (before : Option Char) (text : List Char) :
    Content.at rules before text = (Content.at {} before text).under rules.defaultKey := by
  unfold Content.at
  rw [Match.at?_eq_map]
  split
  · rfl
  · cases Match.at? {} before text <;> rfl

theorem Content.length_under (content : Content) : (content.under key).length = content.length := by
  cases content with
  | blank | skipped run => rfl
  | found m => exact m.length_under

/-- **A default key moves no segment.** A text falls into the same segments under every default key, and only
the key of terms without one differs. -/
theorem following_eq_map (rules : Rules) (before : Option Char) (position skip : Nat)
    (text : List Char) :
    following rules before position skip text =
      (following {} before position skip text).map (under rules.defaultKey) := by
  induction text generalizing before position skip with
  | nil => cases skip <;> rfl
  | cons c text ih =>
      cases skip with
      | succ skip => rw [following, following, ih]
      | zero =>
          rw [following, following]
          simp only [Content.at_eq_under rules, Content.length_under]
          rw [List.map_cons, ih]
          rfl

theorem ofText_eq_map (rules : Rules) (text : List Char) :
    Segment.ofText rules text = (Segment.ofText {} text).map (under rules.defaultKey) :=
  following_eq_map rules none 0 0 text

end Segment

/-- The token of a term, with the term under `key` if it has no key of its own. -/
def Token.under (key : Option String) (t : Token) : Token :=
  match t.kind with
  | .term x => ⟨.term (x.under key), t.position⟩
  | _ => t

namespace TokenStream

variable {rules : Rules} {text : String}

/-! ## Terms -/

/-- **Terms under a default key.** They are the terms that the text has under the plain rules, those without
a key under the default key, as far as their keys are allowed. -/
theorem filter_isTerm_eq_map (rules : Rules) (text : String) :
    (ofText rules text).tokens.filter (·.kind.isTerm) =
      (((ofText {} text).tokens.filter (·.kind.isTerm)).map (Token.under rules.defaultKey)).filter
        fun t => t.term?.any rules.allows := by
  have hterm : ∀ s ∈ Segment.ofText {} text.toList,
      (s.under rules.defaultKey).termTokens rules.anyKey =
        (s.termTokens {}).map (Token.under rules.defaultKey) := by
    rintro ⟨position, content⟩ hs
    cases content with
    | blank | skipped run => rfl
    | found m =>
        obtain ⟨_, hspells⟩ := Segment.exists_spells hs rfl
        have haccepted : m.key.all ({} : Rules).accepts = true := by cases m.key <;> rfl
        simp only [Segment.termTokens, Segment.terms, Segment.under, Segment.Content.under,
          Rules.all_accepts_anyKey, haccepted, if_true, hspells.terms_under, List.map_map]
        rfl
  rw [filter_isTerm_anyKey, ← filter_any_term, filter_isTerm_ofText, filter_isTerm_ofText,
    Segment.ofText_eq_map, List.flatMap_map, List.map_flatMap]
  exact congrArg _ (List.flatMap_congr hterm)

/-- A term of the text is one that the text has under the plain rules, under the default key if it has no key
there, and its key is allowed. -/
theorem exists_of_mem_terms {x : Term} {position : Nat}
    (h : ⟨.term x, position⟩ ∈ (ofText rules text).tokens) :
    ∃ y, ⟨.term y, position⟩ ∈ (ofText {} text).tokens ∧ x = y.under rules.defaultKey ∧
      rules.allows x = true := by
  have hterm : ⟨.term x, position⟩ ∈ (ofText rules text).tokens.filter (·.kind.isTerm) :=
    List.mem_filter.mpr ⟨h, rfl⟩
  rw [filter_isTerm_eq_map] at hterm
  obtain ⟨hmap, hallowed⟩ := List.mem_filter.mp hterm
  obtain ⟨⟨kind, i⟩, hmem, hunder⟩ := List.mem_map.mp hmap
  obtain ⟨hplain, hkind⟩ := List.mem_filter.mp hmem
  cases kind with
  | term y =>
      obtain ⟨hx, rfl⟩ : y.under rules.defaultKey = x ∧ i = position := by
        simpa [Token.under] using hunder
      exact ⟨y, hplain, hx.symm, hallowed⟩
  | joiner j | openGroup n | closeGroup | negation => cases hkind

/-! ## Terms that are written without a key -/

/-- The text writes a term without a key: it is one of the terms under the plain rules, which set no default
key. -/
def WritesKeyless (text : String) (form : Form) (s : String) (position : Nat) : Prop :=
  ⟨.term (.text none form s), position⟩ ∈ (ofText {} text).tokens

variable {form : Form} {s : String} {position : Nat}

/-- Such a term is a match of its own, under the default key. -/
theorem WritesKeyless.mem_segments (h : WritesKeyless text form s position) (rules : Rules) :
    ∃ n, ⟨position, .found ⟨n, rules.defaultKey, s,
      .tokens [.term (.text rules.defaultKey form s)]⟩⟩ ∈ Segment.ofText rules text.toList := by
  obtain ⟨m, hs, hx⟩ := exists_found_of_mem h
  obtain ⟨_, hspells⟩ := Segment.exists_spells hs rfl
  refine ⟨m.length, ?_⟩
  rw [← hspells.eq_of_keyless hx, Segment.ofText_eq_map]
  exact List.mem_map.mpr ⟨_, hs, rfl⟩

/-- It is a term under the rules if the default key, or none, is allowed. -/
theorem WritesKeyless.mem_tokens (h : WritesKeyless text form s position)
    (hallowed : rules.defaultKey.all rules.accepts = true) :
    ⟨.term (.text rules.defaultKey form s), position⟩ ∈ (ofText rules text).tokens := by
  have hterm : ⟨.term (.text rules.defaultKey form s), position⟩ ∈
      (ofText rules text).tokens.filter (·.kind.isTerm) := by
    rw [filter_isTerm_eq_map]
    refine List.mem_filter.mpr ⟨List.mem_map.mpr ⟨_, List.mem_filter.mpr ⟨h, rfl⟩, rfl⟩, ?_⟩
    simpa [Token.term?, Rules.allows, Term.key?] using hallowed
  exact (List.mem_filter.mp hterm).1

/-- **Reports at a term without a key.** The only one is that the default key is not allowed. -/
theorem WritesKeyless.filter_problems (h : WritesKeyless text form s position) (rules : Rules) :
    (ofText rules text).problems.filter (·.position == position) =
      ((rules.defaultKey.filter (!rules.accepts ·)).map
        fun key => (⟨.invalidKey key s, position⟩ : Problem)).toList := by
  obtain ⟨n, hs⟩ := h.mem_segments rules
  have hordered : (Segment.ofText rules text.toList).Pairwise (·.position < ·.position) :=
    (Segment.splits_following rules none 0 text.toList).ordered.pairwise
  have hplace : (Segment.allProblems rules _).filter _ = (Segment.problem? rules _).toList :=
    Segment.filter_allProblems hordered hs
  simp only [Segment.problem?] at hplace
  refine hplace.trans ?_
  cases rules.defaultKey.filter (!rules.accepts ·) <;> rfl

end TokenStream

end RecordQuery
