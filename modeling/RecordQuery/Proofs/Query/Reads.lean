import RecordQuery.Proofs.Query.Lossless
import RecordQuery.Proofs.Text.Words

/-!
# Reading a piece of a query

What a piece of text is read as between the text before it and the text after it. The judgement takes
the text after it as it stands, because a match may look ahead, and composes along the query.
-/

namespace RecordQuery.Segment

variable {rules : Rules} {before : Option Char}

/-- After `before` and in front of `rest`, the text `piece` is read in segments of its own, which
yield tokens of these kinds and nothing else. -/
def Reads (rules : Rules) (before : Option Char) (piece rest : List Char)
    (kinds : List Token.Kind) : Prop :=
  ∀ position, ∃ segments,
    following rules before position 0 (piece ++ rest) =
      segments ++
        following rules (piece.getLast?.or before) (position + piece.length) 0 rest ∧
    (∀ s ∈ segments, s.isDropped rules = false ∧ s.problem? rules = none) ∧
    (segments.flatMap (tokens rules)).map Token.kind = kinds

theorem Reads.append {first second rest : List Char} {kinds kinds' : List Token.Kind}
    (hfirst : Reads rules before first (second ++ rest) kinds)
    (hsecond : Reads rules (first.getLast?.or before) second rest kinds') :
    Reads rules before (first ++ second) rest (kinds ++ kinds') := by
  intro position
  obtain ⟨segments, heq, hclean, hkinds⟩ := hfirst position
  obtain ⟨segments', heq', hclean', hkinds'⟩ := hsecond (position + first.length)
  refine ⟨segments ++ segments', ?_, ?_, ?_⟩
  · rw [List.append_assoc, heq, heq', List.append_assoc, List.getLast?_append, Option.or_assoc,
      List.length_append, Nat.add_assoc]
  · intro s hs
    rcases List.mem_append.mp hs with hs | hs
    · exact hclean s hs
    · exact hclean' s hs
  · rw [List.flatMap_append, List.map_append, hkinds, hkinds']

theorem Reads.blank {c : Char} (hc : Text.isBlank c = true) (rest : List Char) :
    Reads rules before [c] rest [] := by
  intro position
  refine ⟨[⟨position, .blank⟩], following_blank hc rest, ?_, rfl⟩
  simp [isDropped, problem?]

/-- A match whose key is accepted yields its tokens and nothing else. -/
theorem kept_of_accepts {m : Match} {kinds : List Token.Kind} (hkinds : m.reading = .tokens kinds)
    (hkey : m.key.all rules.accepts = true) (position : Nat) :
    isDropped rules ⟨position, .found m⟩ = false ∧ problem? rules ⟨position, .found m⟩ = none ∧
      tokens rules ⟨position, .found m⟩ = kinds.map (⟨·, position⟩) := by
  obtain ⟨length, key, value, reading⟩ := m
  obtain rfl : reading = .tokens kinds := hkinds
  have hkey : key.all rules.accepts = true := hkey
  have hfilter : key.filter (fun k => !rules.accepts k) = none := by
    cases key with
    | none => rfl
    | some k => simpa using hkey
  refine ⟨?_, ?_, ?_⟩
  · simp [isDropped, hkey]
  · simp [problem?, hfilter]
  · simp [tokens, hkey]

/-- A match whose key is accepted is read as its tokens. -/
theorem Reads.found {piece rest : List Char} {m : Match} {kinds : List Token.Kind}
    (hne : piece ≠ []) (hstart : piece.head?.any Text.isBlank = false)
    (hm : Match.at? rules before (piece ++ rest) = some m) (hlength : piece.length = m.length)
    (hkinds : m.reading = .tokens kinds) (hkey : m.key.all rules.accepts = true) :
    Reads rules before piece rest kinds := by
  intro position
  obtain ⟨hdropped, hproblem, htokens⟩ := kept_of_accepts hkinds hkey position
  refine ⟨[⟨position, .found m⟩], ?_, ?_, ?_⟩
  · rw [following_found hstart hm hlength hne, List.getLast?_eq_some_getLast hne, Option.some_or]
    rfl
  · simp [hdropped, hproblem]
  · simp [htokens, Function.comp_def]

/-- Where nothing is taken back, the tokens are added one segment after the other. -/
theorem foldl_extend_of_kept {segments : List Segment}
    (h : ∀ s ∈ segments, s.isDropped rules = false) (kept : List Token) :
    segments.foldl (extend rules) kept = (segments.flatMap (tokens rules)).reverse ++ kept := by
  induction segments generalizing kept with
  | nil => rfl
  | cons s segments ih =>
      obtain ⟨hs, hsegments⟩ := List.forall_mem_cons.mp h
      have hstep : extend rules kept s = (s.tokens rules).reverse ++ kept := by
        unfold extend
        rw [if_neg (by simp [hs])]
      rw [List.foldl_cons, hstep, ih hsegments]
      simp

theorem allTokens_of_kept {segments : List Segment}
    (h : ∀ s ∈ segments, s.isDropped rules = false) :
    allTokens rules segments = segments.flatMap (tokens rules) := by
  rw [allTokens, foldl_extend_of_kept h]
  simp

/-- A query read as tokens of these kinds has these tokens before cleanup, and no problem. -/
theorem Reads.ofText {text : List Char} {kinds : List Token.Kind}
    (h : Reads rules none text [] kinds) :
    (allTokens rules (Segment.ofText rules text)).map Token.kind = kinds ∧
      allProblems rules (Segment.ofText rules text) = [] := by
  obtain ⟨segments, heq, hclean, hkinds⟩ := h 0
  have hsegments : Segment.ofText rules text = segments := by
    rw [Segment.ofText, ← List.append_nil text, heq]
    simp [following]
  rw [hsegments]
  refine ⟨?_, ?_⟩
  · rw [allTokens_of_kept (fun s hs => (hclean s hs).1), hkinds]
  · exact List.filterMap_eq_nil_iff.mpr fun s hs => (hclean s hs).2

end RecordQuery.Segment
