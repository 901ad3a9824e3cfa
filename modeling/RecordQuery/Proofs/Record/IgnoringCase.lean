import RecordQuery.Proofs.Record.Preparation
import RecordQuery.Proofs.Text.Lowering

/-!
# Ignoring case

A test that ignores case lowers the text that it searches for and the text that it searches. It passes
wherever the test that minds case does, unless it searches for a capital sigma whose lower-case form depends
on what stands around it. Without negations the same goes for whole queries.
-/

namespace RecordQuery

variable {engine : Engine}

/-- The texts that a term searches for. -/
def Term.needles : Term → List String
  | .text _ .word s | .text _ .phrase s => [s]
  | _ => []

namespace Tree

/-- Whether nothing in the tree is negated and no leaf is a regular expression. -/
def isPlain : Tree → Bool
  | leaf c => !c.negated && !c.term.isRegex
  | node _ l r n => !n && l.isPlain && r.isPlain

/-- The texts that the tree searches for. -/
def needles : Tree → List String
  | leaf c => if c.term.isSortMarker then [] else c.term.needles
  | node _ l r _ => l.needles ++ r.needles

/-- Whether all capital sigmas that the tree searches for have forms of their own. -/
def isSettled (t : Tree) : Bool := t.needles.all Text.isSettled

end Tree

namespace Test

variable {t t' : Test}

/-- Every scalar that passes the first test passes the second. -/
def Implies (t t' : Test) : Prop := ∀ scalar, t.holdsOfScalar scalar = true → t'.holdsOfScalar scalar = true

theorem Implies.holdsOfField (h : t.Implies t') {field : Json} (ht : t.holdsOfField field = true) :
    t'.holdsOfField field = true := by
  obtain ⟨scalar, hscalar, hholds⟩ := List.any_eq_true.mp ht
  exact List.any_eq_true.mpr ⟨scalar, hscalar, h scalar hholds⟩

theorem Implies.holds (h : t.Implies t') {key : Option String} {record : Json}
    (ht : t.holds key record = true) : t'.holds key record = true := by
  cases key with
  | some key =>
      rw [Test.holds] at ht ⊢
      cases hfield : Record.field? record key with
      | none => simp [hfield] at ht
      | some field =>
          rw [hfield] at ht
          exact h.holdsOfField ht
  | none =>
      cases record with
      | object fields =>
          obtain ⟨field, hfield, hholds⟩ := List.any_eq_true.mp ht
          exact List.any_eq_true.mpr ⟨field, hfield, h.holdsOfField hholds⟩
      | _ => exact h.holdsOfField ht

/-- A text with settled sigmas is found in lower case wherever it is found. -/
theorem implies_text {needle : String} (h : Text.isSettled needle = true) :
    (text true needle).Implies (text false (Text.lowercase needle)) := by
  intro scalar ht
  simp only [holdsOfScalar, searched, if_true] at ht
  simp only [holdsOfScalar, searched, Bool.false_eq_true, if_false]
  cases hs : Record.text? scalar with
  | none => simp [hs] at ht
  | some s =>
      rw [hs] at ht
      exact (Text.isSettled_iff needle).mp h s ht

/-- The two tests of a term. -/
theorem ofTerm_implies {x : Term} (hregex : x.isRegex = false)
    (hsettled : x.needles.all Text.isSettled = true) (position : Nat) :
    ∃ t t', ofTerm engine true position x = .ok t ∧ ofTerm engine false position x = .ok t' ∧
      t.Implies t' := by
  cases x with
  | number key c y => exact ⟨_, _, rfl, rfl, fun _ ht => ht⟩
  | date key c y => exact ⟨_, _, rfl, rfl, fun _ ht => ht⟩
  | text key form s =>
      cases form with
      | regex => cases hregex
      | word | phrase =>
          have hs : Text.isSettled s = true := by simpa [Term.needles] using hsettled
          exact ⟨_, _, rfl, rfl, implies_text hs⟩

end Test

namespace Predicate

/-- Every record for which the first predicate holds is one for which the second does. -/
def Implies (p q : Predicate) : Prop := ∀ record, p.eval record = true → q.eval record = true

theorem Implies.node {l l' r r' : Predicate} (hl : l.Implies l') (hr : r.Implies r') (o : Connective) :
    (node o l r false).Implies (node o l' r' false) := by
  intro record h
  simp only [eval, Bool.bne_false] at h ⊢
  cases o with
  | and =>
      obtain ⟨hleft, hright⟩ := Bool.and_eq_true_iff.mp h
      exact Bool.and_eq_true_iff.mpr ⟨hl record hleft, hr record hright⟩
  | or => exact Bool.or_eq_true_iff.mpr ((Bool.or_eq_true_iff.mp h).imp (hl record) (hr record))

theorem join_implies {l l' r r' : Option Predicate} (hl : Option.Rel Implies l l')
    (hr : Option.Rel Implies r r') (o : Connective) :
    Option.Rel Implies (join o false l r) (join o false l' r') := by
  cases hl with
  | none =>
      cases hr with
      | none => exact .none
      | some hr => exact .some hr
  | some hl =>
      cases hr with
      | none => exact .some hl
      | some hr => exact .some (hl.node hr o)

/-- The two predicates of a plain tree that settles its sigmas. -/
theorem ofTree_implies {t : Tree} (hplain : t.isPlain = true) (hsettled : t.isSettled = true) :
    ∃ p q, ofTree engine true t = .ok p ∧ ofTree engine false t = .ok q ∧ Option.Rel Implies p q := by
  induction t with
  | leaf c =>
      obtain ⟨hnegated, hregex⟩ := Bool.and_eq_true_iff.mp hplain
      rw [Bool.not_eq_true'] at hnegated hregex
      cases hmarker : c.term.isSortMarker with
      | true =>
          exact ⟨none, none, ofTree_leaf_eq_ok.mpr (.inl ⟨hmarker, rfl⟩),
            ofTree_leaf_eq_ok.mpr (.inl ⟨hmarker, rfl⟩), .none⟩
      | false =>
          have hneedles : c.term.needles.all Text.isSettled = true := by
            simpa [Tree.isSettled, Tree.needles, hmarker] using hsettled
          obtain ⟨t, t', ht, ht', himplies⟩ := Test.ofTerm_implies hregex hneedles c.position
          refine ⟨_, _, ofTree_leaf_eq_ok.mpr (.inr ⟨hmarker, t, ht, rfl⟩),
            ofTree_leaf_eq_ok.mpr (.inr ⟨hmarker, t', ht', rfl⟩), .some ?_⟩
          intro record h
          rw [eval, hnegated, Bool.bne_false] at h ⊢
          exact himplies.holds h
  | node o l r n ihl ihr =>
      obtain ⟨hboth, hr⟩ := Bool.and_eq_true_iff.mp hplain
      obtain ⟨hn, hl⟩ := Bool.and_eq_true_iff.mp hboth
      obtain rfl : n = false := by simpa using hn
      rw [Tree.isSettled, Tree.needles, List.all_append, Bool.and_eq_true] at hsettled
      obtain ⟨p, q, hp, hq, hleft⟩ := ihl hl hsettled.1
      obtain ⟨p', q', hp', hq', hright⟩ := ihr hr hsettled.2
      exact ⟨_, _, ofTree_node_eq_ok.mpr ⟨p, p', hp, hp', rfl⟩,
        ofTree_node_eq_ok.mpr ⟨q, q', hq, hq', rfl⟩, join_implies hleft hright o⟩

end Predicate

namespace RecordFilter

/-- Both filters of a query can be prepared, and the one that ignores case keeps what the other keeps. -/
def IgnoringCaseAdds (engine : Engine) (query : Parsed) : Prop :=
  ∃ f g, ofParsed true query engine = .ok f ∧ ofParsed false query engine = .ok g ∧
    ∀ record, f.keeps record = true → g.keeps record = true

theorem ignoringCaseAdds {query : Parsed}
    (h : ∀ t, query.tree = some t → t.isPlain = true ∧ t.isSettled = true) :
    IgnoringCaseAdds engine query := by
  cases ht : query.tree with
  | none => exact ⟨_, _, ofParsed_of_no_tree ht, ofParsed_of_no_tree ht, fun _ hf => hf⟩
  | some t =>
      obtain ⟨hplain, hsettled⟩ := h t ht
      obtain ⟨p, q, hp, hq, himplies⟩ := Predicate.ofTree_implies hplain hsettled
      refine ⟨_, _, ofParsed_of_tree ht hp, ofParsed_of_tree ht hq, ?_⟩
      intro record hf
      cases himplies with
      | none => exact hf
      | some himplies => exact himplies record hf

/-! ## A single text -/

/-- A record with one field of text, which the key names if there is one. -/
def textRecord (key : Option String) (s : String) : Json := .object [(key.getD "", .string s)]

theorem holds_textRecord (caseSensitive : Bool) (needle : String) (key : Option String) (s : String) :
    (Test.text caseSensitive needle).holds key (textRecord key s) =
      Text.isInfix needle.toList (Test.searched caseSensitive s).toList := by
  cases key <;>
    simp [textRecord, Test.holds, Record.field?, Json.get?, Test.holdsOfField, Record.scalars,
      Test.holdsOfScalar, Record.text?]

/-- The filter of a query for one text. -/
theorem keeps_textRecord {caseSensitive : Bool} {query : Parsed} {key : Option String} {form : Form}
    {needle : String} {position : Nat} {f : RecordFilter} (hform : form ≠ .regex)
    (hmarker : (Term.text key form needle).isSortMarker = false)
    (ht : query.tree = some (.leaf ⟨.text key form needle, position, false⟩))
    (hf : ofParsed caseSensitive query engine = .ok f) (s : String) :
    f.keeps (textRecord key s) =
      Text.isInfix (Test.searched caseSensitive needle).toList (Test.searched caseSensitive s).toList := by
  have htest : Test.ofTerm engine caseSensitive position (.text key form needle) =
      .ok (.text caseSensitive (Test.searched caseSensitive needle)) := by
    cases form with
    | regex => exact absurd rfl hform
    | word | phrase => rfl
  have hleaf : Predicate.ofTree engine caseSensitive (.leaf ⟨.text key form needle, position, false⟩) =
      .ok (some (.leaf key (.text caseSensitive (Test.searched caseSensitive needle)) false)) :=
    Predicate.ofTree_leaf_eq_ok.mpr (.inr ⟨hmarker, _, htest, rfl⟩)
  rw [ofParsed_of_tree ht hleaf] at hf
  obtain rfl := Except.ok.inj hf
  rw [keeps, Option.all_some, Predicate.eval, Bool.bne_false, holds_textRecord]

/-- **Ignoring case adds records.** A query without negations and regular expressions keeps, if it ignores
case, every record that it keeps if it does not, provided that the texts it searches for settle the forms of
their capital sigmas. For a query for one text this is needed, too. -/
theorem ignoringCase_adds (engine : Engine) (query : Parsed) :
    ((∀ t, query.tree = some t → t.isPlain = true ∧ t.isSettled = true) →
        IgnoringCaseAdds engine query) ∧
      ∀ key form needle position, form ≠ .regex → (Term.text key form needle).isSortMarker = false →
        query.tree = some (.leaf ⟨.text key form needle, position, false⟩) →
          (Text.isSettled needle = true ↔ IgnoringCaseAdds engine query) := by
  refine ⟨ignoringCaseAdds, ?_⟩
  intro key form needle position hform hmarker ht
  constructor
  · intro hsettled
    refine ignoringCaseAdds ?_
    intro t ht'
    obtain rfl := Option.some.inj (ht.symm.trans ht')
    have hneedles : (Term.text key form needle).needles = [needle] := by
      cases form with
      | regex => exact absurd rfl hform
      | word | phrase => rfl
    refine ⟨?_, by simp [Tree.isSettled, Tree.needles, hmarker, hneedles, hsettled]⟩
    cases form with
    | regex => exact absurd rfl hform
    | word | phrase => rfl
  · rintro ⟨f, g, hf, hg, hadds⟩
    refine (Text.isSettled_iff needle).mpr ?_
    intro s hpart
    have hkeeps := hadds (textRecord key s)
    rw [keeps_textRecord hform hmarker ht hf, keeps_textRecord hform hmarker ht hg] at hkeeps
    exact hkeeps hpart

/-- A capital sigma between letters is settled, and one behind them is not. -/
theorem ignoringCase_adds_settled :
    let query := Parsed.ofQuery {} "name:\u039F\u03A3\u039F OR \"K m\""
    let record : Json := .object [("name", .string "\u039D\u039F\u03A3\u039F\u03A3")]
    (∃ t, query.tree = some t ∧ t.isPlain = true ∧ t.isSettled = true) ∧
      (∃ f g, ofParsed true query = .ok f ∧ ofParsed false query = .ok g ∧ f.keeps record = true ∧
        g.keeps record = true) ∧
      ¬ IgnoringCaseAdds Regex.engine (Parsed.ofQuery {} "\u0391\u03A3") := by
  intro query record
  have ht : query.tree = some (.node .or (.leaf ⟨.text (some "name") .word "\u039F\u03A3\u039F", 0, false⟩)
      (.leaf ⟨.text none .phrase "K m", 12, false⟩) false) := by decide +kernel
  have hword : (Parsed.ofQuery {} "\u0391\u03A3").tree =
      some (.leaf ⟨.text none .word "\u0391\u03A3", 0, false⟩) := by decide +kernel
  have hplain : ∀ t, query.tree = some t → t.isPlain = true ∧ t.isSettled = true := by
    intro t ht'
    obtain rfl := Option.some.inj (ht.symm.trans ht')
    decide +kernel
  refine ⟨⟨_, ht, hplain _ ht⟩, ?_, ?_⟩
  · obtain ⟨f, g, hf, hg, hadds⟩ := (ignoringCase_adds Regex.engine query).1 hplain
    have hf' := ofParsed_of_tree ht (show Predicate.ofTree Regex.engine true _ = .ok _ from rfl)
    obtain rfl := Except.ok.inj (hf.symm.trans hf')
    refine ⟨_, g, hf, hg, ?_, hadds record ?_⟩
    · decide +kernel
    · decide +kernel
  · rw [← (ignoringCase_adds Regex.engine _).2 none .word "\u0391\u03A3" 0 (by decide) rfl hword]
    decide +kernel

/-- By itself the sigma of this word is final, and inside of another it is not. -/
theorem ignoringCase_loses :
    let query := Parsed.ofQuery {} "\u0391\u03A3"
    let record : Json := .object [("t", .string "\u0391\u03A3\u0391")]
    (∃ t, query.tree = some t ∧ t.isPlain = true) ∧
      ∃ f g, ofParsed true query = .ok f ∧ ofParsed false query = .ok g ∧ f.keeps record = true ∧
        g.keeps record = false := by
  intro query record
  have ht : query.tree = some (.leaf ⟨.text none .word "\u0391\u03A3", 0, false⟩) := by
    decide +kernel
  refine ⟨⟨_, ht, rfl⟩, _, _,
    ofParsed_of_tree ht (show Predicate.ofTree Regex.engine true _ = .ok _ from rfl),
    ofParsed_of_tree ht (show Predicate.ofTree Regex.engine false _ = .ok _ from rfl), ?_, ?_⟩
  · decide +kernel
  · decide +kernel

end RecordFilter

end RecordQuery
