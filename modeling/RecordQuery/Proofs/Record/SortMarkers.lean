import Mathlib.Data.List.Forall2
import RecordQuery.Proofs.Query.Conditions
import RecordQuery.Proofs.Record.Neutrality

/-!
# Sort keys and their markers

A sort marker is told by its key, and its sort key by its value: the field is what the marker has for a text.
So the sort keys of a query are those of the markers with a text, in order, each with the field that the query
spells there, whatever its characters. A marker in front of a literal is read as a comparison, and lost: it is
no test and no sort key either.
-/

namespace RecordQuery

namespace SortKey

/-- The sort key is that of a marker, and the query spells it at its place: the field behind the key and a
colon, or by itself if terms without a key are markers. -/
def Written (rules : Rules) (query : String) (k : SortKey) (c : Condition) : Prop :=
  ∃ form front piece rest, c.term = .text (some k.direction.marker) form k.field ∧
    query.toList = front ++ piece ++ rest ∧ front.length = c.position ∧
    (piece = k.direction.marker.toList ++ ':' :: form.enclose k.field.toList ∨
      rules.defaultKey = some k.direction.marker ∧ piece = form.enclose k.field.toList)

end SortKey

/-- The condition compares with a literal, which the query spells at its place behind the key of a marker and
a sign. -/
def Condition.ComparesMarker (query : String) (c : Condition) : Prop :=
  ∃ (d : Direction) (front : List Char) (o : Comparison) (literal rest : List Char),
    query.toList = front ++ (d.marker.toList ++ o.spelling.toList ++ literal) ++ rest ∧
      front.length = c.position ∧ c.term.ReadFrom d.marker.toList o literal

/-- The conditions that are sort markers, in order. -/
def Parsed.markers (query : Parsed) : List Condition := query.conditions.filter (·.term.isSortMarker)

variable {rules : Rules} {q : String} {c : Condition}

theorem Direction.ofKey?_eq_some {key : Option String} {d : Direction} (h : ofKey? key = some d) :
    key = some d.marker := by
  unfold ofKey? at h
  split at h
  · next hkey =>
      obtain rfl := Option.some.inj h
      exact hkey
  · split at h
    · next hkey =>
        obtain rfl := Option.some.inj h
        exact hkey
    · cases h

theorem Term.exists_marker {x : Term} (h : x.isSortMarker = true) :
    ∃ d : Direction, x.key? = some d.marker := by
  obtain ⟨d, hd⟩ := Option.isSome_iff_exists.mp h
  exact ⟨d, Direction.ofKey?_eq_some hd⟩

/-- A marker without a comparison has a text. -/
theorem Term.exists_text {x : Term} (hmarker : x.isSortMarker = true) (hx : x.comparison? = none) :
    ∃ (d : Direction) (form : Form) (field : String), x = .text (some d.marker) form field := by
  obtain ⟨d, hd⟩ := exists_marker hmarker
  cases x with
  | text key form field =>
      obtain rfl : key = some d.marker := hd
      exact ⟨d, form, field, rfl⟩
  | number key o y | date key o y => cases hx

namespace SortKey

/-- Other conditions and markers that compare have no sort key. -/
theorem ofCondition?_eq_none (hc : c.term.isSortMarker = false ∨ c.term.comparison?.isSome = true) :
    ofCondition? c = none := by
  obtain ⟨term, position, negated⟩ := c
  rw [ofCondition?]
  cases hkey : Direction.ofKey? term.key? with
  | none => rfl
  | some d =>
      cases term with
      | text key form field =>
          rcases hc with hc | hc
          · simp [Term.isSortMarker, hkey] at hc
          · cases hc
      | number key o x => rfl
      | date key o x => rfl

end SortKey

namespace Parsed

/-- A marker with a text is spelled with its field. -/
theorem exists_written (hc : c ∈ (Parsed.ofQuery rules q).conditions)
    (hmarker : c.term.isSortMarker = true) (htext : c.term.comparison?.isNone = true) :
    ∃ k, SortKey.ofCondition? c = some k ∧ SortKey.Written rules (Parsed.ofQuery rules q).query k c := by
  obtain ⟨d, form, field, hterm⟩ := Term.exists_text hmarker (Option.isNone_iff_eq_none.mp htext)
  have hmem := mem_ofText_of_mem_conditions hc
  rw [hterm] at hmem
  obtain ⟨front, piece, rest, hquery, hposition, hpiece⟩ := TokenStream.exists_spelled hmem
  refine ⟨⟨field, d⟩, SortKey.ofCondition?_text hterm, form, front, piece, rest, hterm, hquery, hposition, ?_⟩
  rcases hpiece with ⟨hdefault, hpiece⟩ | ⟨key, hkey, hpiece⟩
  · exact .inr ⟨hdefault.symm, hpiece⟩
  · obtain rfl := Option.some.inj hkey
    exact .inl hpiece

/-- A marker that compares is read from a literal. -/
theorem comparesMarker (hc : c ∈ (Parsed.ofQuery rules q).conditions)
    (hmarker : c.term.isSortMarker = true) (hcompares : c.term.comparison?.isSome = true) :
    c.ComparesMarker (Parsed.ofQuery rules q).query := by
  obtain ⟨d, hd⟩ := Term.exists_marker hmarker
  obtain ⟨front, key, o, literal, rest, hquery, hposition, hkey, hread⟩ :=
    TokenStream.exists_readFrom (mem_ofText_of_mem_conditions hc) hcompares
  obtain rfl : d.marker.toList = key := by
    rw [hd, Option.some.injEq] at hkey
    rw [hkey, String.toList_ofList]
  exact ⟨d, front, o, literal, rest, hquery, hposition, hread⟩

end Parsed

/-- What a partial function has for the elements that it is defined on. -/
theorem forall₂_filterMap {α β : Type} {R : β → α → Prop} {f : α → Option β} {p : α → Bool} {l : List α}
    (hsome : ∀ a ∈ l, p a = true → ∃ b, f a = some b ∧ R b a)
    (hnone : ∀ a ∈ l, p a = false → f a = none) : List.Forall₂ R (l.filterMap f) (l.filter p) := by
  induction l with
  | nil => exact .nil
  | cons a l ih =>
      have hrest := ih (fun b hb => hsome b (List.mem_cons_of_mem a hb))
        fun b hb => hnone b (List.mem_cons_of_mem a hb)
      cases hp : p a with
      | true =>
          obtain ⟨b, hb, hab⟩ := hsome a (List.mem_cons_self ..) hp
          rw [List.filterMap_cons_some hb, List.filter_cons_of_pos hp]
          exact .cons hab hrest
      | false =>
          rw [List.filterMap_cons_none (hnone a (List.mem_cons_self ..) hp),
            List.filter_cons_of_neg (by simp [hp])]
          exact hrest

namespace RecordFilter

theorem sortKeys_eq {engine : Engine} {caseSensitive : Bool} {query : Parsed} {f : RecordFilter}
    (hf : ofParsed caseSensitive query engine = .ok f) :
    f.sortKeys = SortKey.ofConditions query.conditions := by
  cases ht : query.tree with
  | none =>
      rw [ofParsed_of_no_tree ht] at hf
      rw [← Except.ok.inj hf]
  | some t =>
      rw [ofParsed_of_tree ht (ofTree_of_ofParsed ht hf)] at hf
      rw [← Except.ok.inj hf]

/-- The sort keys are those of the markers with a text, one for each. -/
theorem forall₂_written (rules : Rules) (q : String) :
    List.Forall₂ (SortKey.Written rules (Parsed.ofQuery rules q).query)
      (SortKey.ofConditions (Parsed.ofQuery rules q).conditions)
      ((Parsed.ofQuery rules q).markers.filter (·.term.comparison?.isNone)) := by
  rw [Parsed.markers, List.filter_filter]
  apply forall₂_filterMap
  · intro c hc hboth
    obtain ⟨htext, hmarker⟩ := Bool.and_eq_true_iff.mp hboth
    exact Parsed.exists_written hc hmarker htext
  · intro c _ hneither
    apply SortKey.ofCondition?_eq_none
    cases hmarker : c.term.isSortMarker with
    | false => exact .inl rfl
    | true =>
        rw [hmarker, Bool.and_true] at hneither
        exact .inr (by simpa using hneither)

/-- Two markers with a text do not share a place. -/
theorem pairwise_texts (rules : Rules) (q : String) :
    ((Parsed.ofQuery rules q).markers.filter (·.term.comparison?.isNone)).Pairwise
      (·.position < ·.position) := by
  refine (((Parsed.pairwise_conditions rules q).filter _).filter _).imp_of_mem ?_
  rintro c d hc - (hlt | ⟨-, hbounds⟩)
  · exact hlt
  · have htext := (List.mem_filter.mp hc).2
    have hcompares := hbounds.compares
    rw [Option.isNone_iff_eq_none] at htext
    rw [htext] at hcompares
    cases hcompares

/-- **Markers with a text sort.** The sort keys of a query are those of its markers with a text, one for each
and in the order of their places, each with the field that the query spells there. Every other marker compares
with a literal, and has no sort key: so each marker has one exactly if none compares. -/
theorem sortKeys_written (rules : Rules) (q : String) (engine : Engine) (caseSensitive : Bool)
    {f : RecordFilter}
    (hf : ofParsed caseSensitive (Parsed.ofQuery rules q) engine = .ok f) :
    let query := Parsed.ofQuery rules q
    let texts := query.markers.filter (·.term.comparison?.isNone)
    List.Forall₂ (SortKey.Written rules query.query) f.sortKeys texts ∧
      texts.Pairwise (·.position < ·.position) ∧
      (∀ c ∈ query.markers, c.term.comparison?.isSome = true → c.ComparesMarker query.query) ∧
      (List.Forall₂ (SortKey.Written rules query.query) f.sortKeys query.markers ↔
        ∀ c ∈ query.markers, c.term.comparison?.isSome = false) := by
  intro query texts
  have hkeys : f.sortKeys = SortKey.ofConditions query.conditions := sortKeys_eq hf
  have htexts : List.Forall₂ (SortKey.Written rules query.query) f.sortKeys texts := by
    rw [hkeys]
    exact forall₂_written rules q
  refine ⟨htexts, pairwise_texts rules q, ?_, ?_, ?_⟩
  · intro c hc hcompares
    obtain ⟨hmem, hmarker⟩ := List.mem_filter.mp hc
    exact Parsed.comparesMarker hmem hmarker hcompares
  · -- One key for each marker leaves none that is not among the markers with a text.
    intro hall
    have hlength : texts.length = query.markers.length :=
      htexts.length_eq.symm.trans hall.length_eq
    intro c hc
    have htext := List.length_filter_eq_length_iff.mp hlength c hc
    simpa using htext
  · intro hnone
    have hall : texts = query.markers := List.filter_eq_self.mpr fun c hc => by simpa using hnone c hc
    rw [← hall]
    exact htexts

/-- A field of two words, one that would be a number without its quotes, under a negated marker, and one between
slashes. -/
theorem sortKeys_written_quoted :
    let query := Parsed.ofQuery {} "desc:\"unit price\" dune -asc:\"5\" asc:/n/"
    (∀ c ∈ query.markers, c.term.comparison?.isSome = false) ∧
      ∃ f, ofParsed false query = .ok f ∧
        f.sortKeys = [⟨"unit price", .descending⟩, ⟨"5", .ascending⟩, ⟨"n", .ascending⟩] ∧
        List.Forall₂ (SortKey.Written {} query.query) f.sortKeys query.markers := by
  intro query
  have ht : query.tree = some (.node .and (.node .and (.node .and
      (.leaf ⟨.text (some "desc") .phrase "unit price", 0, false⟩) (.leaf ⟨.text none .word "dune", 18, false⟩)
      false) (.leaf ⟨.text (some "asc") .phrase "5", 24, true⟩) false)
      (.leaf ⟨.text (some "asc") .regex "n", 32, false⟩) false) := by decide +kernel
  have hf := ofParsed_of_tree ht (show Predicate.ofTree Regex.engine false _ = .ok _ from rfl)
  have hnone : ∀ c ∈ query.markers, c.term.comparison?.isSome = false := by decide +kernel
  obtain ⟨-, -, -, hall⟩ :=
    sortKeys_written {} "desc:\"unit price\" dune -asc:\"5\" asc:/n/" Regex.engine false hf
  exact ⟨hnone, _, hf, by decide +kernel, hall.mpr hnone⟩

/-- A marker in front of a numeral: the query keeps every record, and does not sort. -/
theorem sortKeys_lost :
    let query := Parsed.ofQuery {} "asc:5"
    query.markers = [⟨.number "asc" .colon (.ofNat 5), 0, false⟩] ∧
      ∃ f, ofParsed false query = .ok f ∧ (∀ record, f.keeps record = true) ∧ f.sortKeys = [] ∧
        ¬ List.Forall₂ (SortKey.Written {} query.query) f.sortKeys query.markers := by
  intro query
  have ht : query.tree = some (.leaf ⟨.number "asc" .colon (.ofNat 5), 0, false⟩) := by decide +kernel
  have hf := ofParsed_of_tree ht (show Predicate.ofTree Regex.engine false _ = .ok _ from rfl)
  have hmarkers : query.markers = [⟨.number "asc" .colon (.ofNat 5), 0, false⟩] := by decide +kernel
  have hkeys : SortKey.ofConditions query.conditions = [] := by decide +kernel
  refine ⟨hmarkers, _, hf, fun record => rfl, hkeys, ?_⟩
  show ¬ List.Forall₂ _ (SortKey.ofConditions query.conditions) _
  rw [hkeys, hmarkers]
  intro hall
  cases hall

end RecordFilter

end RecordQuery
