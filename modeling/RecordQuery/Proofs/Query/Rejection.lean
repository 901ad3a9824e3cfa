import RecordQuery.Proofs.Query.AllowList
import RecordQuery.Proofs.Query.Seams
import RecordQuery.Proofs.Query.TakenOut

/-!
# Conditions under an allow-list

A term under a key that is not allowed is taken out with the negation in front of it. The conditions
that are left are those that the query has under every key, without the ones on other keys: on the same
terms, at the same places and, where no operand that may be taken out is negated more than once, with the
same signs.
-/

namespace RecordQuery

/-! ## Matches that are taken out -/

/-- In front of a group of two terms that are not allowed no more than one token waits either. -/
theorem Token.NegatedOnce.length_waiting_group {allows : Term → Bool} {all : List Token} {x y : Term}
    {position : Nat} (h : NegatedOnce allows (all ++ [⟨.openGroup false, position⟩,
      ⟨.term x, position⟩, ⟨.term y, position⟩, ⟨.closeGroup, position⟩]))
    (hx : allows x = false) (hy : allows y = false) : (waiting all).length ≤ 1 := by
  have hsplit : all ++ [⟨.openGroup false, position⟩, ⟨.term x, position⟩, ⟨.term y, position⟩,
      ⟨.closeGroup, position⟩] = all ++ [⟨.openGroup false, position⟩] ++ [⟨.term x, position⟩] ++
        [⟨.term y, position⟩] ++ ⟨.closeGroup, position⟩ :: [] := by simp
  rw [hsplit] at h
  have hbare := h.bareOnce rfl
  have hsecond := hbare.of_other (by simp [Kind.isCloseGroup, term?, hy])
  have hfirst := hsecond.of_other (by simp [Kind.isCloseGroup, term?, hx])
  exact (hfirst.of_openGroup rfl).2

/-- What a match with a key stands for: no tokens, or one or two terms under the key, in a group or
not. -/
inductive Match.Reading.Keyed (key : String) : Match.Reading → Prop
  | malformed : Keyed key .malformed
  | single {x : Term} (hx : x.key? = some key) : Keyed key (.tokens [.term x])
  | pair {x y : Term} (hx : x.key? = some key) (hy : y.key? = some key) :
      Keyed key (.tokens [.term x, .term y])
  | group {x y : Term} (hx : x.key? = some key) (hy : y.key? = some key) :
      Keyed key (.tokens [.openGroup false, .term x, .term y, .closeGroup])

theorem Match.Spells.keyed_of_key {rules : Rules} {piece : List Char} {m : Match} {key : String}
    (h : Match.Spells rules piece m) (hkey : m.key = some key) : m.reading.Keyed key := by
  cases h with
  | openGroup | negatedGroup _ | closeGroup | negation _ | joiner _ => cases hkey
  | malformed _ _ | malformedRange _ _ _ => exact .malformed
  | unkeyed _ | keyed _ _ | number _ _ | date _ _ _ _ => exact .single hkey
  | numberRange _ _ _ _ => exact .pair hkey hkey
  | period _ _ _ _ | periodRange _ _ _ _ => exact .group hkey hkey

/-- What a match stands for under a key that is not allowed is taken out, and nothing waits behind it. -/
theorem Token.Follows.rejected_keyed {allows : Term → Bool} {all kept : List Token} {key : String}
    {kinds : List Token.Kind} (h : Token.Follows allows all kept.reverse)
    (hkeyed : (Match.Reading.tokens kinds).Keyed key)
    (hnot : ∀ x : Term, x.key? = some key → allows x = false) (position : Nat)
    (honce : Token.NegatedOnce allows (all ++ kinds.map (⟨·, position⟩))) :
    Token.Follows allows (all ++ kinds.map (⟨·, position⟩)) (Cleanup.dropNegation kept).reverse ∧
      (Token.waiting (all ++ kinds.map (⟨·, position⟩))).length = 0 := by
  cases hkeyed with
  | single hx =>
      have hwaiting := honce.length_waiting (hnot _ hx)
      exact ⟨h.rejected (hnot _ hx) position hwaiting, Token.length_waiting_of_last all rfl⟩
  | @pair x y hx hy =>
      have hwaiting := honce.length_waiting (hnot _ hx)
      refine ⟨h.rejected_pair (hnot _ hx) (hnot _ hy) position hwaiting, ?_⟩
      have hlast := Token.length_waiting_of_last (all ++ [⟨.term x, position⟩])
        (t := ⟨.term y, position⟩) rfl
      rwa [List.append_assoc] at hlast
  | @group x y hx hy =>
      have hwaiting := honce.length_waiting_group (hnot _ hx) (hnot _ hy)
      refine ⟨h.rejected_group (hnot _ hx) (hnot _ hy) position hwaiting, ?_⟩
      have hlast := Token.length_waiting_of_last
        (all ++ [⟨.openGroup false, position⟩, ⟨.term x, position⟩, ⟨.term y, position⟩])
        (t := ⟨.closeGroup, position⟩) rfl
      rwa [List.append_assoc] at hlast

namespace Segment

variable {rules : Rules}

/-! ## The two readings of a query -/

/-- The tokens `kept` under the rules against the tokens `all` under every key, both last first: the same
since a place where nothing waits. -/
def Restricts (rules : Rules) (all kept : List Token) : Prop :=
  ∃ fresh base base', all = fresh ++ base ∧ kept = fresh ++ base' ∧
    (∀ t ∈ fresh, ∀ x, t.term? = some x → rules.allows x = true) ∧
      (Token.waiting base.reverse).length = 0 ∧
        Token.Follows rules.allows base.reverse base'.reverse

theorem Restricts.of_follows {all kept : List Token}
    (h : Token.Follows rules.allows all.reverse kept.reverse)
    (hnone : (Token.waiting all.reverse).length = 0) : Restricts rules all kept :=
  ⟨[], all, kept, rfl, rfl, List.forall_mem_nil _, hnone, h⟩

theorem Restricts.follows {all kept : List Token} (h : Restricts rules all kept) :
    Token.Follows rules.allows all.reverse kept.reverse := by
  obtain ⟨fresh, base, base', rfl, rfl, hfresh, -, hfollows⟩ := h
  rw [List.reverse_append, List.reverse_append]
  exact hfollows.append fun t ht => hfresh t (List.mem_reverse.mp ht)

theorem Restricts.append {all kept tokens : List Token} (h : Restricts rules all kept)
    (htokens : ∀ t ∈ tokens, ∀ x, t.term? = some x → rules.allows x = true) :
    Restricts rules (tokens ++ all) (tokens ++ kept) := by
  obtain ⟨fresh, base, base', rfl, rfl, hfresh, hbase⟩ := h
  refine ⟨tokens ++ fresh, base, base', by simp, by simp, ?_, hbase⟩
  intro t ht
  rcases List.mem_append.mp ht with ht | ht
  · exact htokens t ht
  · exact hfresh t ht

/-- A negation that is taken back is one of both. -/
theorem Restricts.dropNegation {all kept : List Token} (h : Restricts rules all kept) :
    Restricts rules (Cleanup.dropNegation all) (Cleanup.dropNegation kept) := by
  obtain ⟨fresh, base, base', rfl, rfl, hfresh, hnone, hfollows⟩ := h
  cases fresh with
  | nil =>
      have hnone' : (Token.waiting base'.reverse).length = 0 :=
        Nat.le_zero.mp (hnone ▸ hfollows.waiting)
      rw [List.nil_append, List.nil_append, Token.dropNegation_eq_self hnone,
        Token.dropNegation_eq_self hnone']
      exact ⟨[], base, base', rfl, rfl, hfresh, hnone, hfollows⟩
  | cons t fresh =>
      rw [List.cons_append, List.cons_append, Cleanup.dropNegation_cons, Cleanup.dropNegation_cons]
      split
      · exact ⟨fresh, base, base', rfl, rfl, fun u hu => hfresh u (List.mem_cons_of_mem t hu), hnone,
          hfollows⟩
      · exact ⟨t :: fresh, base, base', rfl, rfl, hfresh, hnone, hfollows⟩

/-- One more segment, in both readings. -/
theorem Restricts.extend {text : List Char} {s : Segment} (hs : s ∈ Segment.ofText rules text)
    {all kept : List Token} (h : Restricts rules all kept)
    (honce : Token.NegatedOnce rules.allows (extend rules.anyKey all s).reverse) :
    Restricts rules (extend rules.anyKey all s) (extend rules kept s) := by
  have hspells : ∀ m, s.content = .found m → ∃ piece, Match.Spells rules piece m :=
    fun m hm => exists_spells hs hm
  obtain ⟨position, content⟩ := s
  rw [extend_eq] at honce ⊢
  rw [extend_eq]
  cases content with
  | blank | skipped run => exact h
  | found m =>
      obtain ⟨piece, hspells⟩ := hspells m rfl
      obtain ⟨length, key, value, reading⟩ := m
      cases reading with
      | malformed => exact h.dropNegation
      | tokens kinds =>
          simp only [isDropped, tokens, Rules.all_accepts_anyKey, Bool.not_true, Bool.false_eq_true,
            if_false, if_true] at honce ⊢
          rw [List.reverse_append, List.reverse_reverse] at honce
          cases haccepts : key.all rules.accepts with
          | true =>
              refine h.append ?_
              intro t ht x hx
              obtain ⟨kind, hkind, rfl⟩ := List.mem_map.mp (List.mem_reverse.mp ht)
              have hterm : x ∈ (Match.Reading.tokens kinds).terms :=
                List.mem_filterMap.mpr ⟨kind, hkind, hx⟩
              rw [Rules.allows, hspells.key?_of_mem_terms hterm]
              exact haccepts
          | false =>
              obtain ⟨k, rfl, hk⟩ : ∃ k, key = some k ∧ rules.accepts k = false := by
                cases key with
                | none => cases haccepts
                | some k => exact ⟨k, rfl, haccepts⟩
              have hnot : ∀ x : Term, x.key? = some k → rules.allows x = false := by
                intro x hx
                rw [Rules.allows, hx]
                exact hk
              obtain ⟨hfollows, hnone⟩ :=
                h.follows.rejected_keyed (hspells.keyed_of_key rfl) hnot position honce
              refine .of_follows ?_ ?_
              · rw [List.reverse_append, List.reverse_reverse]
                exact hfollows
              · rw [List.reverse_append, List.reverse_reverse]
                exact hnone

theorem negatedOnce_of_extend {allows : Term → Bool} {kept : List Token} {s : Segment}
    (h : Token.NegatedOnce allows (extend rules kept s).reverse) :
    Token.NegatedOnce allows kept.reverse := by
  rw [extend_eq] at h
  split at h
  · exact Token.negatedOnce_dropNegation.mp h
  · rw [List.reverse_append, List.reverse_reverse] at h
    exact h.of_append

/-- All segments, in both readings. -/
theorem restricts_foldl {text : List Char} {segments : List Segment}
    (hmem : ∀ s ∈ segments, s ∈ Segment.ofText rules text)
    (honce : Token.NegatedOnce rules.allows (allTokens rules.anyKey segments)) :
    Restricts rules (segments.foldl (extend rules.anyKey) []) (segments.foldl (extend rules) []) := by
  induction segments using List.reverseRecOn with
  | nil => exact .of_follows (.nil _) rfl
  | append_singleton segments s ih =>
      rw [List.foldl_append, List.foldl_append]
      rw [allTokens, List.foldl_append] at honce
      have hbefore := ih (fun u hu => hmem u (by simp [hu])) (negatedOnce_of_extend honce)
      exact hbefore.extend (hmem s (by simp)) honce

theorem follows_allTokens {text : List Char}
    (honce : Token.NegatedOnce rules.allows (allTokens rules.anyKey (Segment.ofText rules text))) :
    Token.Follows rules.allows (allTokens rules.anyKey (Segment.ofText rules text))
      (allTokens rules (Segment.ofText rules text)) :=
  (restricts_foldl (fun _ hs => hs) honce).follows

end Segment

/-! ## Conditions -/

/-- The tokens of a query before cleanup. -/
def Parsed.rawTokens (rules : Rules) (q : String) : List Token :=
  Segment.allTokens rules (Segment.ofText rules (Text.normalize q).toList)

/-- The term of a token, and its place. -/
def Token.placed? (t : Token) : Option (Term × Nat) := t.term?.map (·, t.position)

/-- Whatever their signs, the conditions are on the terms, each at its place. -/
theorem Token.map_conditionsFrom (before tokens : List Token) :
    (conditionsFrom before tokens).map (fun c => (c.term, c.position)) =
      tokens.filterMap placed? := by
  induction tokens generalizing before with
  | nil => rfl
  | cons t tokens ih =>
      obtain ⟨kind, position⟩ := t
      rw [conditionsFrom, List.map_append, ih]
      cases kind <;> rfl

theorem TokenStream.filterMap_placed? (rules : Rules) (text : String) :
    (ofText rules text).tokens.filterMap Token.placed? =
      ((ofText rules.anyKey text).tokens.filterMap Token.placed?).filter (rules.allows ·.1) := by
  have hterms : ∀ tokens : List Token, tokens.filterMap Token.placed? =
      (tokens.filter (·.kind.isTerm)).filterMap Token.placed? := by
    intro tokens
    rw [List.filterMap_filter]
    apply List.filterMap_congr
    rintro ⟨kind, position⟩ -
    cases kind <;> rfl
  rw [hterms, filter_isTerm_anyKey, List.filterMap_filter, List.filter_filterMap]
  apply List.filterMap_congr
  rintro ⟨kind, position⟩ -
  cases kind with
  | term x => rfl
  | openGroup _ | closeGroup | negation | joiner _ => rfl

variable (rules : Rules) (q : String)

/-- An allow-list does not make a query too long. -/
theorem TokenStream.ofQuery_anyKey :
    (ofQuery rules q).tokens = [] ∧ (ofQuery rules.anyKey q).tokens = [] ∨
      ofQuery rules q = ofText rules q ∧ ofQuery rules.anyKey q = ofText rules.anyKey q := by
  have hlimit : rules.anyKey.maxQueryLength = rules.maxQueryLength := rfl
  rw [ofQuery, ofQuery, hlimit]
  cases rules.maxQueryLength with
  | none => exact .inr ⟨rfl, rfl⟩
  | some limit =>
      by_cases hlong : limit < q.length
      · exact .inl ⟨by simp [hlong], by simp [hlong]⟩
      · exact .inr ⟨by simp [hlong], by simp [hlong]⟩

/-- Where no operand that may be taken out is negated more than once, the terms keep their signs. -/
theorem Token.conditionsFrom_restricted {rules : Rules} {text : String}
    (h : NegatedOnce rules.allows
      (Segment.allTokens rules.anyKey (Segment.ofText rules.anyKey text.toList))) :
    conditionsFrom [] (TokenStream.ofText rules text).tokens =
      (conditionsFrom [] (TokenStream.ofText rules.anyKey text).tokens).filter
        (rules.allows ·.term) := by
  have hstream : (TokenStream.ofText rules.anyKey text).tokens =
      cleanup (Segment.allTokens rules.anyKey (Segment.ofText rules text.toList)) := by
    rw [← Segment.ofText_anyKey]
    rfl
  rw [Segment.ofText_anyKey] at h
  have hfollows := Segment.follows_allTokens h
  have hfree := (follows_cleanup h.mono).conditions
  have hkept := (follows_cleanup (hfollows.once h)).conditions
  rw [List.filter_true] at hfree hkept
  calc conditionsFrom [] (TokenStream.ofText rules text).tokens
      = conditionsFrom [] (Segment.allTokens rules (Segment.ofText rules text.toList)) := hkept
    _ = _ := hfollows.conditions
    _ = _ := by rw [hstream, hfree]

/-- The conditions that count are read off the tokens. -/
theorem Parsed.conditions_eq :
    (Parsed.ofQuery rules q).conditions =
      (Token.conditionsFrom [] (TokenStream.ofQuery rules (Text.normalize q)).tokens).filter
        (·.term.counts rules.dropZeroValues) := by
  rw [← Tree.conditions_ofTokens?]
  show conditionsOf _ _ = _
  cases Tree.ofTokens? (TokenStream.ofQuery rules (Text.normalize q)).tokens <;> rfl

/-- **Conditions under an allow-list.** They are those that the query has under every key, without the
ones under keys that are not allowed: the same terms, in the same order and places, and with the same
signs if no more than one token waits in front of any term that is not allowed and of any start of a group
behind which a group ends before an allowed term comes. -/
theorem Parsed.conditions_restricted :
    (Parsed.ofQuery rules q).conditions.map (fun c => (c.term, c.position)) =
        ((Parsed.ofQuery rules.anyKey q).conditions.filter (rules.allows ·.term)).map
          (fun c => (c.term, c.position)) ∧
      (Token.NegatedOnce rules.allows (Parsed.rawTokens rules.anyKey q) →
        (Parsed.ofQuery rules q).conditions =
          (Parsed.ofQuery rules.anyKey q).conditions.filter (rules.allows ·.term)) := by
  have hcounts : rules.anyKey.dropZeroValues = rules.dropZeroValues := rfl
  have hpairs : ∀ (p : Term → Bool) (conditions : List Condition),
      (conditions.filter (p ·.term)).map (fun c => (c.term, c.position)) =
        (conditions.map fun c => (c.term, c.position)).filter (p ·.1) := by
    intro p conditions
    rw [List.filter_map]
    rfl
  -- Both filters look at the term alone, so that their order does not matter.
  rw [conditions_eq, conditions_eq, hcounts, List.filter_comm]
  rcases TokenStream.ofQuery_anyKey rules (Text.normalize q) with ⟨hkept, hfree⟩ | ⟨hkept, hfree⟩
  · rw [hkept, hfree]
    exact ⟨rfl, fun _ => rfl⟩
  · rw [hkept, hfree]
    constructor
    · rw [hpairs (·.counts _), hpairs (·.counts _), hpairs rules.allows, Token.map_conditionsFrom,
        Token.map_conditionsFrom, TokenStream.filterMap_placed?]
    · intro honce
      rw [Token.conditionsFrom_restricted honce]

/-- With two negated terms that are not allowed, one of them in a group that is negated twice. -/
theorem Parsed.conditions_restricted_signs :
    let rules : Rules := { validKeys := some ["title"] }
    let q := "-price:1 - - (title:a OR -made:2024) b"
    Token.NegatedOnce rules.allows (Parsed.rawTokens rules.anyKey q) ∧
      (Parsed.ofQuery rules q).conditions =
        [⟨.text (some "title") .word "a", 14, true⟩, ⟨.text none .word "b", 37, false⟩] := by
  intro rules q
  have honce : Token.NegatedOnce rules.allows (Parsed.rawTokens rules.anyKey q) := by decide +kernel
  refine ⟨honce, ?_⟩
  rw [(Parsed.conditions_restricted rules q).2 honce]
  decide +kernel

/-- Behind two negations of a term that is not allowed, the next term takes the first. -/
theorem Parsed.conditions_doubly_negated :
    let rules : Rules := { validKeys := some ["title"] }
    let q := "--price:1 good"
    (Parsed.ofQuery rules q).conditions = [⟨.text none .word "good", 10, true⟩] ∧
      (Parsed.ofQuery rules.anyKey q).conditions.filter (rules.allows ·.term) =
        [⟨.text none .word "good", 10, false⟩] := by
  decide +kernel

end RecordQuery
