import RecordQuery.Proofs.Record.Preparation

/-!
# Sort markers are neutral

A sort marker that is joined to any part of a tree, by AND or by OR and on either side, leaves the predicate
of the tree as it is, and adds its sort key at its place among the others. A tree of nothing but sort markers
has no predicate.
-/

namespace RecordQuery

namespace Tree

/-- A tree with a place in it left open. -/
inductive Context where
  | here
  | left (connective : Connective) (around : Context) (right : Tree) (negated : Bool)
  | right (connective : Connective) (left : Tree) (around : Context) (negated : Bool)

namespace Context

/-- The tree with a part put at the open place. -/
def fill : Context → Tree → Tree
  | here, t => t
  | left o a r n, t => node o (a.fill t) r n
  | right o l a n, t => node o l (a.fill t) n

/-- Whether what is put at the open place is within a negated group, if the whole is or not. -/
def negates (within : Bool) : Context → Bool
  | here => within
  | left _ a _ n | right _ _ a n => a.negates (within || n)

/-- The conditions to the left of the open place. -/
def before (within : Bool) : Context → List Condition
  | here => []
  | left _ a _ n => a.before (within || n)
  | right _ l a n => l.conditionsWithin (within || n) ++ a.before (within || n)

/-- The conditions to the right of the open place. -/
def after (within : Bool) : Context → List Condition
  | here => []
  | left _ a r n => a.after (within || n) ++ r.conditionsWithin (within || n)
  | right _ _ a n => a.after (within || n)

/-- The conditions of the part stand between those around it. -/
theorem conditionsWithin_fill (a : Context) (within : Bool) (t : Tree) :
    (a.fill t).conditionsWithin within =
      a.before within ++ t.conditionsWithin (a.negates within) ++ a.after within := by
  induction a generalizing within with
  | here => simp [fill, before, after, negates]
  | left o a r n ih => simp [fill, before, after, negates, conditionsWithin, ih]
  | right o l a n ih => simp [fill, before, after, negates, conditionsWithin, ih]

end Context

/-- A tree joined to a condition, which comes first or last. -/
def joined (o : Connective) (first : Bool) (c : Condition) (t : Tree) : Tree :=
  if first then node o (leaf c) t false else node o t (leaf c) false

theorem conditionsWithin_joined (o : Connective) (first : Bool) (c : Condition) (t : Tree) (within : Bool) :
    (t.joined o first c).conditionsWithin within =
      (if first then [] else t.conditionsWithin within) ++ [{ c with negated := within || c.negated }] ++
        if first then t.conditionsWithin within else [] := by
  cases first <;> simp [joined, conditionsWithin]

end Tree

namespace Predicate

variable {engine : Engine} {caseSensitive : Bool}

theorem ofTree_marker {m : Condition} (hm : m.term.isSortMarker = true) :
    ofTree engine caseSensitive (.leaf m) = .ok none :=
  ofTree_leaf_eq_ok.mpr (.inl ⟨hm, rfl⟩)

/-- Joined to a marker, a tree fails or succeeds as it does by itself, and has the same predicate. -/
theorem ofTree_joined {m : Condition} (hm : m.term.isSortMarker = true) (o : Connective) (first : Bool)
    (t : Tree) : ofTree engine caseSensitive (t.joined o first m) = ofTree engine caseSensitive t := by
  cases first with
  | true =>
      show ofTree engine caseSensitive (.node o (.leaf m) t false) = _
      rw [ofTree, ofTree_marker hm]
      cases ofTree engine caseSensitive t with
      | error e => rfl
      | ok p => cases p <;> rfl
  | false =>
      show ofTree engine caseSensitive (.node o t (.leaf m) false) = _
      rw [ofTree, ofTree_marker hm]
      cases ofTree engine caseSensitive t with
      | error e => rfl
      | ok p => cases p <;> rfl

/-- Parts with one predicate can be put in each other's place. -/
theorem ofTree_fill {t u : Tree} (h : ofTree engine caseSensitive t = ofTree engine caseSensitive u)
    (a : Tree.Context) : ofTree engine caseSensitive (a.fill t) = ofTree engine caseSensitive (a.fill u) := by
  induction a with
  | here => exact h
  | left o a r n ih => rw [Tree.Context.fill, Tree.Context.fill, ofTree, ofTree, ih]
  | right o l a n ih => rw [Tree.Context.fill, Tree.Context.fill, ofTree, ofTree, ih]

/-- Markers alone have no predicate. -/
theorem ofTree_markers {t : Tree} {within : Bool}
    (ht : ∀ c ∈ t.conditionsWithin within, c.term.isSortMarker = true) :
    ofTree engine caseSensitive t = .ok none := by
  induction t generalizing within with
  | leaf c =>
      apply ofTree_marker
      exact ht { c with negated := within || c.negated } (by simp [Tree.conditionsWithin])
  | node o l r n ihl ihr =>
      rw [Tree.conditionsWithin] at ht
      have hl := ihl fun c hc => ht c (List.mem_append_left _ hc)
      have hr := ihr fun c hc => ht c (List.mem_append_right _ hc)
      exact ofTree_node_eq_ok.mpr ⟨none, none, hl, hr, rfl⟩

end Predicate

/-! ## Sort keys -/

theorem Direction.ofKey?_marker (d : Direction) : ofKey? (some d.marker) = some d := by
  cases d <;> decide

namespace SortKey

/-- The sort keys among those of the conditions that count, in order. -/
def ofCounted (dropZero : Bool) (conditions : List Condition) : List SortKey :=
  ofConditions (conditions.filter (·.term.counts dropZero))

theorem ofCounted_append (dropZero : Bool) (front back : List Condition) :
    ofCounted dropZero (front ++ back) = ofCounted dropZero front ++ ofCounted dropZero back := by
  rw [ofCounted, List.filter_append, ofConditions, List.filterMap_append]
  rfl

variable {c : Condition} {d : Direction}

/-- A marker with a text names the field of a sort key. -/
theorem ofCondition?_text {form : Form} {field : String} (hc : c.term = .text (some d.marker) form field) :
    ofCondition? c = some ⟨field, d⟩ := by
  rw [ofCondition?, hc]
  simp [Term.key?, Direction.ofKey?_marker]

theorem ofCounted_text (dropZero : Bool) {form : Form} {field : String}
    (hc : c.term = .text (some d.marker) form field) (hfield : field.isEmpty = false) :
    ofCounted dropZero [c] = [⟨field, d⟩] := by
  have hcounts : c.term.counts dropZero = true := by
    simp [hc, Term.counts, Term.isEmpty, Term.isZero, hfield]
  simp [ofCounted, ofConditions, hcounts, ofCondition?_text hc]

/-- One without a text names none. -/
theorem ofCounted_of_no_text (dropZero : Bool)
    (hc : ∀ key form field, c.term = .text key form field → field.isEmpty = true) :
    ofCounted dropZero [c] = [] := by
  obtain ⟨term, position, negated⟩ := c
  cases term with
  | text key form field =>
      have hempty : field.isEmpty = true := hc key form field rfl
      simp [ofCounted, ofConditions, Term.counts, Term.isEmpty, hempty]
  | number key o x =>
      cases hcounts : (Term.number key o x).counts dropZero <;>
        simp [ofCounted, ofConditions, hcounts, ofCondition?]
  | date key o x =>
      cases hcounts : (Term.date key o x).counts dropZero <;>
        simp [ofCounted, ofConditions, hcounts, ofCondition?]

end SortKey

/-! ## Queries -/

/-- The query with another tree, and with the conditions of that. -/
def Parsed.withTree (dropZero : Bool) (t : Tree) (query : Parsed) : Parsed :=
  { query with tree := some t, conditions := conditionsOf dropZero (some t) }

namespace RecordFilter

variable (engine : Engine) (caseSensitive dropZero : Bool) (query : Parsed)

theorem ofParsed_withTree (t : Tree) :
    ofParsed caseSensitive (query.withTree dropZero t) engine =
      (Predicate.ofTree engine caseSensitive t).map (⟨·, SortKey.ofCounted dropZero t.conditions⟩) := by
  cases hp : Predicate.ofTree engine caseSensitive t with
  | error e => simp [ofParsed, Parsed.withTree, hp, Except.map, bind, Except.bind]
  | ok p => exact ofParsed_of_tree rfl hp

/-- What one filter gains over another by a marker that sorts in a direction, between the sort keys in front
of it and those behind. -/
structure Gains (d : Direction) (m : Condition) (front back : List SortKey) (f g : RecordFilter) : Prop where
  keeps : ∀ record, g.keeps record = f.keeps record
  sortKeys : f.sortKeys = front ++ back
  /-- A text is the field of one more sort key, at its place among the others. -/
  gained : ∀ form field, m.term = .text (some d.marker) form field → field.isEmpty = false →
    g.sortKeys = front ++ ⟨field, d⟩ :: back
  /-- Nothing is gained by empty text, a number or an instant. -/
  unchanged : (∀ key form field, m.term = .text key form field → field.isEmpty = true) →
    g.sortKeys = f.sortKeys

variable {engine caseSensitive dropZero query}

/-- A predicate with the keys on both sides of a marker, and with that of the marker between them. -/
theorem gains_marker {p : Option Predicate} {front back : List Condition} {d : Direction} {m : Condition}
    (n : Bool) :
    Gains d m (SortKey.ofCounted dropZero front) (SortKey.ofCounted dropZero back)
      ⟨p, SortKey.ofCounted dropZero (front ++ back)⟩
      ⟨p, SortKey.ofCounted dropZero (front ++ [{ m with negated := n }] ++ back)⟩ := by
  refine ⟨fun _ => rfl, SortKey.ofCounted_append .., ?_, ?_⟩
  · intro form field hm hfield
    have hkey : SortKey.ofCounted dropZero [{ m with negated := n }] = [⟨field, d⟩] :=
      SortKey.ofCounted_text dropZero hm hfield
    show SortKey.ofCounted dropZero (front ++ [{ m with negated := n }] ++ back) = _
    rw [SortKey.ofCounted_append, SortKey.ofCounted_append, hkey]
    simp
  · intro hm
    have hnone : SortKey.ofCounted dropZero [{ m with negated := n }] = [] :=
      SortKey.ofCounted_of_no_text dropZero hm
    show SortKey.ofCounted dropZero (front ++ [{ m with negated := n }] ++ back) =
      SortKey.ofCounted dropZero (front ++ back)
    rw [SortKey.ofCounted_append, SortKey.ofCounted_append, SortKey.ofCounted_append, hnone,
      List.append_nil]

variable (engine caseSensitive dropZero query)

/-- **Sort markers are neutral.** Joined to any part of a tree by either connective, in front of it or behind
it, a sort marker does not change whether the query can be prepared, how it fails, and which records it keeps;
and the sort keys of the tree gain that of the marker, at its place. A query of nothing but sort markers keeps
every record. -/
theorem ofParsed_joined :
    (∀ (a : Tree.Context) (t : Tree) (o : Connective) (first : Bool) (d : Direction) (m : Condition),
      m.term.key? = some d.marker →
        let plain := ofParsed caseSensitive (query.withTree dropZero (a.fill t)) engine
        let marked := ofParsed caseSensitive (query.withTree dropZero (a.fill (t.joined o first m))) engine
        let inside := t.conditionsWithin (a.negates false)
        let front := a.before false ++ if first then [] else inside
        let back := (if first then inside else []) ++ a.after false
        (∀ e, marked = .error e ↔ plain = .error e) ∧
          ∀ f, plain = .ok f → ∃ g, marked = .ok g ∧
            Gains d m (SortKey.ofCounted dropZero front) (SortKey.ofCounted dropZero back) f g) ∧
      ∀ t : Tree, (∀ c ∈ t.conditions, c.term.isSortMarker = true) →
        ∃ f, ofParsed caseSensitive (query.withTree dropZero t) engine = .ok f ∧
          ∀ record, f.keeps record = true := by
  constructor
  · intro a t o first d m hm plain marked inside front back
    have hmarker : m.term.isSortMarker = true := by rw [Term.isSortMarker, hm, Direction.ofKey?_marker]; rfl
    have hsame : Predicate.ofTree engine caseSensitive (a.fill (t.joined o first m)) =
        Predicate.ofTree engine caseSensitive (a.fill t) :=
      Predicate.ofTree_fill (Predicate.ofTree_joined hmarker o first t) a
    have hplain : (a.fill t).conditions = front ++ back := by
      rw [Tree.conditions, Tree.Context.conditionsWithin_fill]
      cases first <;> simp [front, back, inside]
    have hmarked : (a.fill (t.joined o first m)).conditions =
        front ++ [{ m with negated := a.negates false || m.negated }] ++ back := by
      rw [Tree.conditions, Tree.Context.conditionsWithin_fill, Tree.conditionsWithin_joined]
      simp only [front, back, inside, List.append_assoc]
    simp only [plain, marked, ofParsed_withTree, hsame, hplain, hmarked]
    cases Predicate.ofTree engine caseSensitive (a.fill t) with
    | error e => exact ⟨fun _ => Iff.rfl, fun f hf => by cases hf⟩
    | ok p =>
        refine ⟨fun e => by simp [Except.map], ?_⟩
        rintro f hf
        obtain rfl := Except.ok.inj hf
        exact ⟨_, rfl, gains_marker _⟩
  · intro t ht
    have hp : Predicate.ofTree engine caseSensitive t = .ok none := Predicate.ofTree_markers ht
    refine ⟨⟨none, SortKey.ofCounted dropZero t.conditions⟩, ?_, fun record => rfl⟩
    rw [ofParsed_withTree, hp]
    rfl

/-- A negated marker in front of the price, in a negated group of which another marker is the left side: the
price is below 10, or the title holds `hobbit`. -/
theorem ofParsed_joined_group :
    let price : Tree := .leaf ⟨.number "price" .atLeast (.ofNat 10), 30, false⟩
    let title : Tree := .leaf ⟨.text (some "title") .word "hobbit", 45, false⟩
    let a : Tree.Context := .left .or
      (.right .and (.leaf ⟨.text (some "asc") .word "title", 2, false⟩) .here true) title false
    let m : Condition := ⟨.text (some "desc") .phrase "unit price", 13, true⟩
    let query := Parsed.ofQuery {} ""
    let record : Json := .object [("price", .number (.integer 12)), ("title", .string "Dune")]
    m.term.key? = some Direction.descending.marker ∧
      (∃ f g, ofParsed false (query.withTree false (a.fill price)) = .ok f ∧
        ofParsed false (query.withTree false (a.fill (price.joined .or true m))) = .ok g ∧
        f.keeps record = false ∧ g.keeps record = f.keeps record ∧
        f.sortKeys = [⟨"title", .ascending⟩] ∧
        g.sortKeys = [⟨"title", .ascending⟩, ⟨"unit price", .descending⟩]) ∧
      (∀ c ∈ (Tree.leaf m).conditions, c.term.isSortMarker = true) ∧
      ∃ f, ofParsed false (query.withTree false (.leaf m)) = .ok f ∧ f.keeps record = true := by
  intro price title a m query record
  obtain ⟨hjoined, hmarkers⟩ := ofParsed_joined Regex.engine false false query
  have hkey : m.term.key? = some Direction.descending.marker := rfl
  obtain ⟨-, hgains⟩ := hjoined a price .or true .descending m hkey
  have hf : ofParsed false (query.withTree false (a.fill price)) = .ok _ :=
    ofParsed_of_tree rfl (show Predicate.ofTree Regex.engine false (a.fill price) = .ok _ from rfl)
  obtain ⟨g, hg, hsame⟩ := hgains _ hf
  have hmarker : ∀ c ∈ (Tree.leaf m).conditions, c.term.isSortMarker = true := by decide
  obtain ⟨alone, halone, hkeeps⟩ := hmarkers (.leaf m) hmarker
  refine ⟨hkey, ⟨_, g, hf, hg, by decide +kernel, hsame.keeps record, by decide +kernel, ?_⟩, hmarker, alone,
    halone, hkeeps record⟩
  rw [hsame.gained .phrase "unit price" rfl (by decide)]
  decide +kernel

end RecordFilter

end RecordQuery
