import RecordQuery.Proofs.Query.Barrier
import RecordQuery.Proofs.Query.GroupTree
import RecordQuery.Proofs.Query.Seams

/-!
# The tree of a query around an operand

An operand that stands between two texts is read by itself if the text before it leaves no quote and no
slash open. The tokens of the query are those of the three, and cleanup goes on in the two texts as if
they stood alone, so the tree depends on the operand only through its tokens.
-/

namespace RecordQuery

namespace Segment

variable {rules : Rules}

/-- A slash that a text leaves open is a slash of the text. -/
theorem slash_mem_of_open {text : List Char} {s : Segment} {m : Match} {x : Term}
    (hs : s ∈ Segment.ofText rules text) (hm : s.content = .found m) (hx : x ∈ m.reading.terms)
    (hopen : x.isOpenSlash = true) : '/' ∈ text := by
  obtain ⟨front, piece, rest, htext, -, -, hspells⟩ :=
    (splits_following rules none 0 text).spells_of_found hs hm
  obtain ⟨key, word, tail, rfl, hword⟩ : ∃ key word tail,
      x = .text key .word word ∧ word.toList = '/' :: tail := by
    unfold Term.isOpenSlash at hopen
    split at hopen
    · next key word =>
        split at hopen
        · next tail hword => exact ⟨key, word, tail, rfl, hword⟩
        · cases hopen
    · cases hopen
  have hpiece : '/' ∈ piece := by
    rcases hspells.text_cases hx with ⟨-, rfl⟩ | ⟨k, -, rfl⟩
    · simp [Form.enclose, hword]
    · simp [Form.enclose, hword]
  simp [htext, hpiece]

/-- Before a blank, a text without quotes and slashes leaves nothing open. -/
theorem ends_blank {text : List Char} (hquote : '"' ∉ text) (hslash : '/' ∉ text) (rest : List Char) :
    Ends text (' ' :: rest) (Segment.ofText rules text) where
  stop := (by decide : Match.isStop ' ' = true)
  skipped := .inr ⟨hquote, (by decide : Text.isBlank ' ' = true)⟩
  slash := fun _ hs _ hm _ hx hopen => absurd (slash_mem_of_open hs hm hx hopen) hslash

/-- What is read as tokens of these kinds wherever a group may start and a match may end. -/
def Stands (rules : Rules) (piece : List Char) (kinds : List Token.Kind) : Prop :=
  ∀ before rest, before.all Match.isBoundary = true → Match.StartsWithStop rest →
    Reads rules before piece rest kinds

section
variable {first last lead trail piece : List Char} {kinds : List Token.Kind}

/-- The text in front adds the tokens that it has by itself. -/
theorem adds_front (hquote : '"' ∉ first) (hslash : '/' ∉ first) (hlead : Text.IsGap lead)
    (hfirst : lead = [] → first = []) (rest : List Char) :
    Adds rules NothingWaits none (first ++ lead) rest
      ((allTokens rules (Segment.ofText rules first)).map Token.kind) := by
  rcases hlead with rfl | rfl
  · obtain rfl := hfirst rfl
    exact (reads_gap (.inl rfl) none rest).adds
  · have htext : Adds rules NothingWaits none first ([' '] ++ rest) _ :=
      adds_text rfl (ends_blank hquote hslash rest)
    simpa using htext.append_reads (reads_gap (.inr rfl) _ rest)

/-- So does the text at the end. -/
theorem adds_back (before : Option Char) (htrail : Text.IsGap trail) (hlast : trail = [] → last = []) :
    Adds rules NothingWaits before (trail ++ last) []
      ((allTokens rules (Segment.ofText rules last)).map Token.kind) := by
  rcases htrail with rfl | rfl
  · obtain rfl := hlast rfl
    exact (reads_gap (.inl rfl) before []).adds
  · have hbefore : ([' '].getLast?.or before).all Match.isBoundary = true := by
      show Match.isBoundary ' ' = true
      decide
    exact (reads_gap (.inr rfl) before _).adds.append_adds (by simp) (adds_end hbefore last)

/-- **Tokens around an operand.** They are those of the two texts by themselves. -/
theorem kinds_between (hquote : '"' ∉ first) (hslash : '/' ∉ first) (hlead : Text.IsGap lead)
    (htrail : Text.IsGap trail) (hfirst : lead = [] → first = []) (hlast : trail = [] → last = [])
    (hpiece : Stands rules piece kinds) (hne : kinds ≠ [])
    (hend : ∀ k ∈ kinds.getLast?, k.isNegation = false) :
    (allTokens rules (Segment.ofText rules (first ++ (lead ++ (piece ++ (trail ++ last)))))).map
        Token.kind =
      (allTokens rules (Segment.ofText rules first)).map Token.kind ++
        (kinds ++ (allTokens rules (Segment.ofText rules last)).map Token.kind) := by
  have hbefore : ((first ++ lead).getLast?.or none).all Match.isBoundary = true := by
    rcases hlead with rfl | rfl
    · obtain rfl := hfirst rfl
      rfl
    · simp [show Match.isBoundary ' ' = true by decide]
  have hstop : Match.StartsWithStop (trail ++ last) := by
    rcases htrail with rfl | rfl
    · obtain rfl := hlast rfl
      exact rfl
    · exact (by decide : Match.isStop ' ' = true)
  -- The first text adds its tokens whatever follows, as it opens no quote and no slash.
  have hfront : Adds rules NothingWaits none (first ++ lead) (piece ++ (trail ++ last) ++ []) _ :=
    adds_front hquote hslash hlead hfirst _
  rw [List.append_nil] at hfront
  have hmiddle := hfront.append_reads (hpiece _ _ hbefore hstop)
  rw [← List.append_nil (trail ++ last)] at hmiddle
  have hall := hmiddle.append_adds (by rwa [List.getLast?_append_of_ne_nil _ hne])
    (adds_back _ htrail hlast)
  simpa using hall.kinds_eq

end

end Segment

/-! ## Trees up to places -/

/-- The kinds of the tokens of a query before cleanup. -/
def Parsed.rawKinds (q : String) : List Token.Kind :=
  (Segment.allTokens {} (Segment.ofText {} (Text.normalize q).toList)).map Token.kind

/-- The tree of a query up to its places. -/
def Tree.ofQuery? (q : String) : Option Tree := (Parsed.ofQuery {} q).tree.map Tree.unplaced

theorem Parsed.unplaced_tokens (q : String) :
    Token.unplaced ((Parsed.ofQuery {} q).tokens.map Token.kind) =
      cleanup (Token.unplaced (Parsed.rawKinds q)) :=
  unplaced_cleanup _

theorem Tree.ofQuery?_eq (q : String) :
    Tree.ofQuery? q = Tree.ofTokens? (cleanup (Token.unplaced (Parsed.rawKinds q))) := by
  rw [← Parsed.unplaced_tokens, ← Tree.unplaced_ofTokens?]
  rfl

/-- **The tree around an operand.** What the operand is read as stands between the tokens of the two
texts by themselves. -/
theorem Tree.ofQuery?_between {first last piece : String} {kinds : List Token.Kind}
    (hquote : '"' ∉ first.toList) (hslash : '/' ∉ first.toList) (hnormal : Text.normalize piece = piece)
    (hne : piece.toList ≠ []) (hpiece : Segment.Stands {} piece.toList kinds)
    (hsolid : Cleanup.Solid (Token.unplaced kinds)) :
    Tree.ofQuery? (first ++ " " ++ piece ++ " " ++ last) =
      Tree.ofTokens? (Token.unplaced ((Parsed.ofQuery {} first).tokens.map Token.kind) ++
        (Token.unplaced kinds ++ Token.unplaced ((Parsed.ofQuery {} last).tokens.map Token.kind))) := by
  obtain ⟨lead, trail, hlead, htrail, hfirst, hlast, htext⟩ := Text.normalize_between first last
  have hquote' : '"' ∉ (Text.normalize first).toList :=
    fun hmem => hquote (Text.mem_of_mem_normalize hmem (by decide)).1
  have hslash' : '/' ∉ (Text.normalize first).toList :=
    fun hmem => hslash (Text.mem_of_mem_normalize hmem (by decide)).1
  have hkinds : kinds ≠ [] := by
    rintro rfl
    exact hsolid.ne_nil rfl
  have hend : ∀ k ∈ kinds.getLast?, k.isNegation = false := by
    intro k hk
    exact (hsolid.last ⟨k, 0⟩ (by simp [Token.unplaced, Option.mem_def.mp hk])).2
  have hbetween := Segment.kinds_between hquote' hslash' hlead htrail hfirst hlast hpiece hkinds hend
  rw [← htext piece hnormal hne] at hbetween
  have hraw : Parsed.rawKinds (first ++ " " ++ piece ++ " " ++ last) =
      Parsed.rawKinds first ++ (kinds ++ Parsed.rawKinds last) := hbetween
  rw [Tree.ofQuery?_eq, hraw, Token.unplaced_append, Token.unplaced_append,
    Cleanup.cleanup_between hsolid, Parsed.unplaced_tokens, Parsed.unplaced_tokens]

end RecordQuery
