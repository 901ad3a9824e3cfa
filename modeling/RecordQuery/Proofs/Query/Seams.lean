import RecordQuery.Proofs.Query.Balance
import RecordQuery.Proofs.Query.Lossless
import RecordQuery.Proofs.Query.Unclosed
import RecordQuery.Proofs.Text.Words

/-!
# Texts read one after the other

Where a text is followed by a blank or the end of a group, its segments are those of the text by itself,
and what follows is read as if it stood alone but further on: unless what follows closes a value that is
left open. So the tokens of a text among others are those of the text by itself, and those of a group
are the tokens of the text inside it between the two signs.
-/

namespace RecordQuery

/-- The token further on in the query. -/
def Token.shift (d : Nat) (t : Token) : Token := { t with position := t.position + d }

namespace Segment

variable {rules : Rules}

/-- The segment further on in the query. -/
def shift (d : Nat) (s : Segment) : Segment := { s with position := s.position + d }

/-! ## Places -/

/-- Segments do not depend on where their text starts, but for their places. -/
theorem following_add (d : Nat) (before : Option Char) (position skip : Nat) (text : List Char) :
    following rules before (position + d) skip text =
      (following rules before position skip text).map (shift d) := by
  induction text generalizing before position skip with
  | nil => cases skip <;> rfl
  | cons c text ih =>
      cases skip with
      | zero =>
          rw [following, following, List.map_cons, ← ih, Nat.add_right_comm]
          rfl
      | succ skip => rw [following, following, ← ih, Nat.add_right_comm]

theorem tokens_shift (d : Nat) (s : Segment) :
    (s.shift d).tokens rules = (s.tokens rules).map (Token.shift d) := by
  obtain ⟨position, content⟩ := s
  cases content with
  | blank | skipped _ => rfl
  | found m =>
      obtain ⟨length, key, value, reading⟩ := m
      cases reading with
      | malformed => rfl
      | tokens kinds =>
          by_cases hkey : key.all rules.accepts = true
          · simp [tokens, shift, hkey, Token.shift]
          · simp [tokens, shift, hkey]

theorem extend_eq (kept : List Token) (s : Segment) :
    extend rules kept s =
      if s.isDropped rules then Cleanup.dropNegation kept
      else (s.tokens rules).reverse ++ kept := by
  unfold extend
  split
  · cases kept with
    | nil => rfl
    | cons t kept =>
        obtain ⟨kind, position⟩ := t
        cases kind <;> rfl
  · rfl

theorem extend_shift (d : Nat) (kept : List Token) (s : Segment) :
    extend rules (kept.map (Token.shift d)) (s.shift d) = (extend rules kept s).map (Token.shift d) := by
  have hdropped : (s.shift d).isDropped rules = s.isDropped rules := rfl
  rw [extend_eq, extend_eq, hdropped, tokens_shift, Cleanup.dropNegation_map (f := Token.shift d) fun _ => rfl]
  split
  · rfl
  · simp

theorem allTokens_shift (d : Nat) (segments : List Segment) :
    allTokens rules (segments.map (shift d)) = (allTokens rules segments).map (Token.shift d) := by
  induction segments using List.reverseRecOn with
  | nil => rfl
  | append_singleton segments s ih =>
      rw [List.map_append, List.map_singleton, allTokens_snoc, ih, allTokens_snoc, ← List.map_reverse,
        extend_shift, List.map_reverse]

/-! ## Seams -/

/-- Before the first segment, it only matters whether a group may start there. -/
theorem following_congr {before before' : Option Char}
    (h : before.all Match.isBoundary = before'.all Match.isBoundary) (position : Nat)
    (text : List Char) :
    following rules before position 0 text = following rules before' position 0 text := by
  cases text with
  | nil => rfl
  | cons c text =>
      have hopen : Match.openGroup? before (c :: text) = Match.openGroup? before' (c :: text) := by
        have hstart : (before.all fun c => Text.isBlank c || c == '(') =
            before'.all fun c => Text.isBlank c || c == '(' := h
        unfold Match.openGroup?
        rw [hstart]
      have hcontent : Content.at rules before (c :: text) = Content.at rules before' (c :: text) := by
        rw [Content.at, Content.at, Match.at?, Match.at?, hopen]
      rw [following, following, hcontent]

/-- Every skipped run is reported. -/
theorem content_ne_skipped {segments : List Segment} (h : allProblems rules segments = []) :
    ∀ s ∈ segments, ∀ run, s.content ≠ .skipped run := by
  intro s hs run hrun
  have hnone := List.filterMap_eq_nil_iff.mp h s hs
  simp [problem?, hrun] at hnone

/-- A quote that is not closed starts a skipped run. -/
theorem Splits.exists_skipped {before : Option Char} {position : Nat} {text : List Char}
    {segments : List Segment} (h : Splits rules before position ('"' :: text) segments)
    (hopen : '"' ∉ text) : ∃ s ∈ segments, ∃ run, s.content = .skipped run := by
  generalize htext : '"' :: text = whole at h
  cases h with
  | nil => cases htext
  | blank hc hrest =>
      obtain ⟨rfl, -⟩ := List.cons_eq_cons.mp htext
      simp [show Text.isBlank '"' = false by decide] at hc
  | found hne hstart hlength hm hspells hrest =>
      rw [← htext, Match.at?_openQuote hopen] at hm
      cases hm
  | skipped hne hrun hend hnone hrest => exact ⟨_, List.mem_cons_self .., _, rfl⟩

/-- What may follow a text: nothing that closes a slash in it that is open, and a blank if a run in it may
be skipped. Where no run is skipped, no quote is open. -/
structure Ends (text rest : List Char) (segments : List Segment) : Prop where
  stop : Match.StartsWithStop rest
  skipped : (∀ s ∈ segments, ∀ run, s.content ≠ .skipped run) ∨
    '"' ∉ text ∧ rest.head?.all Text.isBlank = true
  slash : ∀ s ∈ segments, ∀ m, s.content = .found m → ∀ x ∈ m.reading.terms,
    x.isOpenSlash = true → '/' ∉ rest

theorem Ends.tail {front text rest : List Char} {s : Segment} {segments : List Segment}
    (h : Ends (front ++ text) rest (s :: segments)) : Ends text rest segments where
  stop := h.stop
  skipped := h.skipped.imp (fun hnone s hs => hnone s (List.mem_cons_of_mem _ hs))
    (fun hquote => ⟨fun hmem => hquote.1 (List.mem_append_right _ hmem), hquote.2⟩)
  slash := fun s hs => h.slash s (List.mem_cons_of_mem _ hs)

/-- No quote is open where a run is not skipped. -/
theorem Ends.quote_mem {before : Option Char} {position : Nat} {text rest tail : List Char}
    {segments : List Segment} (h : Ends text rest segments)
    (hsplits : Splits rules before position text segments) (htext : text = '"' :: tail) :
    '"' ∈ tail := by
  by_contra hopen
  rcases h.skipped with hnone | ⟨hquote, -⟩
  · obtain ⟨s, hs, run, hrun⟩ := (htext ▸ hsplits).exists_skipped hopen
    exact hnone s hs run hrun
  · simp [htext] at hquote

/-- **Seams.** A text is cut into the same segments whatever follows it, as long as that starts with a
stop and closes nothing that the text leaves open. -/
theorem Splits.following_append {before : Option Char} {position : Nat} {text rest : List Char}
    {segments : List Segment} (h : Splits rules before position text segments)
    (hends : Ends text rest segments) :
    following rules before position 0 (text ++ rest) =
      segments ++ following rules (text.getLast?.or before) (position + text.length) 0 rest := by
  induction h with
  | nil => simp
  | @blank before position c text segments hc hsplits ih =>
      have hlast := getLast?_append_or (List.cons_ne_nil c []) text before
      rw [List.singleton_append] at hlast
      have hfront : Ends ([c] ++ text) rest (⟨position, .blank⟩ :: segments) := hends
      rw [List.cons_append, following_blank hc, ih hfront.tail, hlast, List.length_cons,
        Nat.add_right_comm, Nat.add_assoc]
      rfl
  | @found before position piece text m segments hne hstart hlength hm hspells hsplits ih =>
      have hsettled := Match.settledAt_of_at? hends.stop hm hlength
        (fun tail => hends.tail.quote_mem hsplits) (hends.slash _ (List.mem_cons_self ..) m rfl)
      -- The rest starts with a stop, so it does not make the match any longer.
      have hmatch : Match.at? rules before (piece ++ (text ++ rest)) = some m := by
        rw [← List.append_assoc, Match.at?_append rules before (by simp [hne]) hends.stop hsettled, hm]
      rw [List.append_assoc, following_found hstart hmatch hlength hne, ih hends.tail,
        getLast?_append_or hne, List.length_append, Nat.add_assoc]
      rfl
  | @skipped before position piece text segments hne hrun hend hnone hsplits ih =>
      rcases hends.skipped with hskipped | ⟨hquote, hblank⟩
      · exact absurd rfl (hskipped _ (List.mem_cons_self ..) _)
      · have hsettled : Match.SettledAt (piece ++ text) rest := by
          refine Match.settledAt_of_closed rules before hends.stop ?_ ?_ ?_
          · intro tail htext
            simp [htext] at hquote
          · intro key tail hkey htext
            simp [htext] at hquote
          · simp [hnone]
        have hmatch : Match.at? rules before (piece ++ (text ++ rest)) = none := by
          rw [← List.append_assoc,
            Match.at?_append rules before (by simp [hne]) hends.stop hsettled, hnone]
        have hstop : (text ++ rest).head?.all Text.isBlank = true := by
          cases text with
          | nil => exact hblank
          | cons c text => exact hend
        have hcontent := at_of_skipped hne hrun hstop hmatch
        rw [List.append_assoc, following_piece hcontent rfl hne, ih hends.tail,
          getLast?_append_or hne, List.length_append, Nat.add_assoc]
        rfl

/-! ## Tokens that a text adds -/

/-- After `before` and in front of `rest`, the text `piece` is read in segments of its own, which add
tokens of these kinds to any tokens, last first, of which `P` holds. -/
def Adds (rules : Rules) (P : List Token → Prop) (before : Option Char) (piece rest : List Char)
    (kinds : List Token.Kind) : Prop :=
  ∀ position, ∃ segments,
    following rules before position 0 (piece ++ rest) =
      segments ++ following rules (piece.getLast?.or before) (position + piece.length) 0 rest ∧
    ∀ kept, P kept → ∃ added : List Token,
      segments.foldl (extend rules) kept = added.reverse ++ kept ∧ added.map Token.kind = kinds

/-- No negation waits at the end of these tokens, last first. A term that is left out would take it
back. -/
def NothingWaits (kept : List Token) : Prop := ∀ t ∈ kept.head?, t.kind.isNegation = false

section
variable {P Q : List Token → Prop} {before : Option Char} {first second rest : List Char}
  {kinds kinds' : List Token.Kind}

/-- What is read adds its tokens to any. -/
theorem Reads.adds (h : Reads rules before first rest kinds) : Adds rules P before first rest kinds := by
  intro position
  obtain ⟨segments, heq, hclean, hkinds⟩ := h position
  exact ⟨segments, heq, fun kept _ =>
    ⟨_, foldl_extend_of_kept (fun s hs => (hclean s hs).1) kept, hkinds⟩⟩

theorem Adds.append (hfirst : Adds rules P before first (second ++ rest) kinds)
    (hstep : ∀ kept added : List Token, P kept → added.map Token.kind = kinds →
      Q (added.reverse ++ kept))
    (hsecond : Adds rules Q (first.getLast?.or before) second rest kinds') :
    Adds rules P before (first ++ second) rest (kinds ++ kinds') := by
  intro position
  obtain ⟨segments, heq, hadded⟩ := hfirst position
  obtain ⟨segments', heq', hadded'⟩ := hsecond (position + first.length)
  refine ⟨segments ++ segments', ?_, ?_⟩
  · rw [List.append_assoc, heq, heq', List.append_assoc, List.getLast?_append, Option.or_assoc,
      List.length_append, Nat.add_assoc]
  · intro kept hkept
    obtain ⟨added, hfold, hkinds⟩ := hadded kept hkept
    obtain ⟨added', hfold', hkinds'⟩ := hadded' _ (hstep kept added hkept hkinds)
    refine ⟨added ++ added', ?_, by rw [List.map_append, hkinds, hkinds']⟩
    rw [List.foldl_append, hfold, hfold', List.reverse_append, List.append_assoc]

theorem Adds.append_reads (hfirst : Adds rules P before first (second ++ rest) kinds)
    (hsecond : Reads rules (first.getLast?.or before) second rest kinds') :
    Adds rules P before (first ++ second) rest (kinds ++ kinds') :=
  hfirst.append (Q := fun _ => True) (fun _ _ _ _ => trivial) hsecond.adds

/-- Nothing waits after tokens of which the last is no negation. -/
theorem Adds.append_adds (hfirst : Adds rules NothingWaits before first (second ++ rest) kinds)
    (hlast : ∀ k ∈ kinds.getLast?, k.isNegation = false)
    (hsecond : Adds rules NothingWaits (first.getLast?.or before) second rest kinds') :
    Adds rules NothingWaits before (first ++ second) rest (kinds ++ kinds') := by
  refine hfirst.append ?_ hsecond
  rintro kept added hkept rfl t ht
  cases hadd : added.getLast? with
  | none =>
      obtain rfl := List.getLast?_eq_none_iff.mp hadd
      exact hkept t ht
  | some u =>
      obtain rfl : u = t := by simpa [hadd] using ht
      exact hlast u.kind (by simp [hadd])

/-- A query that adds these tokens has these tokens before cleanup. -/
theorem Adds.kinds_eq {text : List Char} (h : Adds rules NothingWaits none text [] kinds) :
    (allTokens rules (Segment.ofText rules text)).map Token.kind = kinds := by
  obtain ⟨segments, heq, hadded⟩ := h 0
  obtain ⟨added, hfold, hkinds⟩ := hadded [] (by simp [NothingWaits])
  have hsegments : Segment.ofText rules text = segments := by
    rw [Segment.ofText, ← List.append_nil text, heq]
    simp [following]
  rw [hsegments, allTokens, hfold]
  simpa using hkinds

end

/-- Tokens that end in no negation are left alone by what follows. -/
theorem foldl_extend_append (rules : Rules) {base : List Token} (h : NothingWaits base)
    (kept : List Token) (segments : List Segment) :
    segments.foldl (extend rules) (kept ++ base) = segments.foldl (extend rules) kept ++ base := by
  induction segments generalizing kept with
  | nil => rfl
  | cons s segments ih =>
      have hstep : extend rules (kept ++ base) s = extend rules kept s ++ base := by
        rw [extend_eq, extend_eq, Cleanup.dropNegation_append h]
        split
        · rfl
        · rw [List.append_assoc]
      rw [List.foldl_cons, hstep, ih, List.foldl_cons]

/-- Where a group may start, a text is read as at the start of a query. -/
theorem following_of_isBoundary (rules : Rules) {before : Option Char}
    (hbefore : before.all Match.isBoundary = true) (position : Nat) (text : List Char) :
    following rules before position 0 text = (Segment.ofText rules text).map (shift position) := by
  have hnone : before.all Match.isBoundary = (none : Option Char).all Match.isBoundary := hbefore
  rw [following_congr hnone, Segment.ofText, ← following_add, Nat.zero_add]

section
variable {before : Option Char} {text rest : List Char}

/-- A text that is cut into the segments that it has by itself adds the tokens that it has by itself. -/
theorem adds_of_following
    (h : ∀ position, following rules before position 0 (text ++ rest) =
      (Segment.ofText rules text).map (shift position) ++
        following rules (text.getLast?.or before) (position + text.length) 0 rest) :
    Adds rules NothingWaits before text rest
      ((allTokens rules (Segment.ofText rules text)).map Token.kind) := by
  intro position
  refine ⟨_, h position, ?_⟩
  intro kept hkept
  have hfold := foldl_extend_append rules hkept [] ((Segment.ofText rules text).map (shift position))
  have htokens : ((Segment.ofText rules text).map (shift position)).foldl (extend rules) [] =
      ((allTokens rules (Segment.ofText rules text)).map (Token.shift position)).reverse := by
    rw [← allTokens_shift, allTokens, List.reverse_reverse]
  rw [List.nil_append, htokens] at hfold
  refine ⟨_, hfold, ?_⟩
  simp [Function.comp_def, Token.shift]

/-- **Tokens of a text among others.** Where a group may start, a text adds the tokens that it has by
itself. -/
theorem adds_text (hbefore : before.all Match.isBoundary = true)
    (hends : Ends text rest (Segment.ofText rules text)) :
    Adds rules NothingWaits before text rest
      ((allTokens rules (Segment.ofText rules text)).map Token.kind) := by
  refine adds_of_following fun position => ?_
  have hsplits := splits_following rules before position text
  rw [following_of_isBoundary rules hbefore] at hsplits
  refine hsplits.following_append ⟨hends.stop, hends.skipped.imp_left fun hnone => ?_, ?_⟩
  · exact List.forall_mem_map.mpr hnone
  · exact List.forall_mem_map.mpr hends.slash

/-- At the end of a query it does so whatever it leaves open. -/
theorem adds_end (hbefore : before.all Match.isBoundary = true) (text : List Char) :
    Adds rules NothingWaits before text []
      ((allTokens rules (Segment.ofText rules text)).map Token.kind) := by
  refine adds_of_following fun position => ?_
  rw [List.append_nil, following_of_isBoundary rules hbefore]
  exact (List.append_nil _).symm

end

/-! ## A text as a group -/

theorem reads_gap {gap : List Char} (h : Text.IsGap gap) (before : Option Char) (rest : List Char) :
    Reads rules before gap rest [] := by
  rcases h with rfl | rfl
  · exact fun position => ⟨[], by simp, by simp, rfl⟩
  · exact .blank (by decide) rest

/-- No delimiter ends a group, so what follows the group tells whether a text may stand in it. -/
theorem ends_group {text trail rest : List Char} (htrail : Text.IsGap trail)
    (hskipped : ∀ s ∈ Segment.ofText rules text, ∀ run, s.content ≠ .skipped run)
    (hslash : ∀ s ∈ Segment.ofText rules text, ∀ m, s.content = .found m → ∀ x ∈ m.reading.terms,
      x.isOpenSlash = true → '/' ∉ rest) :
    Ends text (trail ++ [')'] ++ rest) (Segment.ofText rules text) where
  stop := by
    rcases htrail with rfl | rfl
    · exact (by decide : Match.isStop ')' = true)
    · exact (by decide : Match.isStop ' ' = true)
  skipped := .inl hskipped
  slash := by
    intro s hs m hm x hx hopen
    have hnone := hslash s hs m hm x hx hopen
    rcases htrail with rfl | rfl <;> simpa using hnone

/-- **Tokens of a group.** A text in a group adds the tokens that it has by itself, between the two
signs. -/
theorem adds_group {before : Option Char} (hbefore : before.all Match.isBoundary = true) (n : Bool)
    {text lead trail rest : List Char} (hlead : Text.IsGap lead) (htrail : Text.IsGap trail)
    (hends : Ends text (trail ++ [')'] ++ rest) (Segment.ofText rules text)) :
    Adds rules NothingWaits before
      ((if n then ['-', '('] else ['(']) ++ (lead ++ (text ++ (trail ++ [')'])))) rest
      (.openGroup n :: ((allTokens rules (Segment.ofText rules text)).map Token.kind ++
        [.closeGroup])) := by
  have hinside : (lead.getLast?.or ((if n then ['-', '('] else ['(']).getLast?.or before)).all
      Match.isBoundary = true := by
    rcases hlead with rfl | rfl
    · cases n <;> rfl
    · rfl
  have htext := (adds_text hinside hends).append_reads
    ((reads_gap htrail _ _).append (reads_closeGroup _ rest))
  exact (reads_openGroup hbefore n _).adds.append_adds (by simp [Token.Kind.isNegation])
    ((reads_gap hlead _ _).adds.append_adds (by simp) htext)

/-- The tokens of a query that is a negated group. -/
theorem kinds_group (rules : Rules) {text lead trail : List Char} (hlead : Text.IsGap lead)
    (htrail : Text.IsGap trail)
    (hskipped : ∀ s ∈ Segment.ofText rules text, ∀ run, s.content ≠ .skipped run) :
    (allTokens rules
        (Segment.ofText rules ('-' :: '(' :: (lead ++ (text ++ (trail ++ [')'])))))).map Token.kind =
      .openGroup true ::
        ((allTokens rules (Segment.ofText rules text)).map Token.kind ++ [.closeGroup]) := by
  have hends : Ends text (trail ++ [')'] ++ []) (Segment.ofText rules text) :=
    ends_group htrail hskipped (by simp)
  exact (adds_group rfl true hlead htrail hends).kinds_eq

end Segment

theorem Parsed.problems_eq (q : String) : (Parsed.ofQuery {} q).problems =
    Segment.allProblems {} (Segment.ofText {} (Text.normalize q).toList) := by
  rw [Parsed.ofQuery, TokenStream.ofQuery, TokenStream.ofText]

/-- A query without problems skips nothing. -/
theorem Parsed.content_ne_skipped {q : String} (h : (Parsed.ofQuery {} q).problems = []) :
    ∀ s ∈ Segment.ofText {} (Text.normalize q).toList, ∀ run, s.content ≠ .skipped run := by
  rw [Parsed.problems_eq] at h
  exact Segment.content_ne_skipped h

end RecordQuery
