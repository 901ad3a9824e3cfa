import RecordQuery.Proofs.Query.Lossless
import RecordQuery.Proofs.Query.Unread
import RecordQuery.Proofs.Text.Words

/-!
# What reports point at

A report of unexpected syntax is about text that cannot be read, and each other report about a match that
is left out. Its place is where that text starts, so the caret stands under its first character, and a hint
is given only where the query would be read if it were followed.
-/

namespace RecordQuery

open Segment

/-- Whether a query is short enough to be read. -/
def Rules.admits (rules : Rules) (query : String) : Bool :=
  rules.maxQueryLength.all (query.length ≤ ·)

/-- The hints that hold where nothing can be read behind `before`: followed, they let the text be read. -/
inductive Match.Mends (rules : Rules) : (before : Option Char) → List Char → (hint : String) → Prop
  | quote {before : Option Char} {rest : List Char} (hrest : '"' ∉ rest)
      (hread : Match.at? rules before ('"' :: rest ++ ['"']) =
        some (Match.ofValue (rest.length + 2) rules.defaultKey ⟨.phrase, rest⟩)) :
      Mends rules before ('"' :: rest) "Add a closing quote (\") to complete the phrase"
  | parenthesis {d : Char} {rest : List Char} (hblank : Text.isBlank d = false) (hopen : d ≠ '(')
      (hread : Match.at? rules (some ' ') ('(' :: rest) = some (.sign 1 (.openGroup false))) :
      Mends rules (some d) ('(' :: rest) "Put whitespace before an opening parenthesis"

/-- What a segment is reported for, and the characters that it covers. -/
inductive Segment.Fault (rules : Rules) : Content → List Char → Problem.Cause → Prop
  | skipped {run : List Char} : Fault rules (.skipped run) run (.unexpected (String.ofList run))
  | rejected {m : Match} {piece : List Char} {key : String} (hspells : Match.Spells rules piece m)
      (hkey : m.key = some key) (hrejected : rules.accepts key = false) :
      Fault rules (.found m) piece (.invalidKey key m.value)
  | malformed {m : Match} {piece : List Char} (hspells : Match.Spells rules piece m)
      (hkey : m.key.all rules.accepts = true) (hreading : m.reading = .malformed)
      (hstrict : rules.strictLiterals = true) :
      Fault rules (.found m) piece (.invalidLiteral m.key m.value)

namespace Segment

variable {rules : Rules} {position : Nat}

/-! ## Places -/

/-- A match that is reported has a key that is not allowed, or else a literal that names no value. -/
theorem fault_of_problem? {m : Match} {piece : List Char} {p : Problem}
    (hspells : Match.Spells rules piece m)
    (h : (⟨position, .found m⟩ : Segment).problem? rules = some p) :
    Fault rules (.found m) piece p.cause := by
  simp only [problem?] at h
  split at h
  · next key hkey =>
      obtain rfl := Option.some.inj h
      obtain ⟨hkey, hrejected⟩ := Option.filter_eq_some_iff.mp hkey
      exact .rejected hspells hkey (by simpa using hrejected)
  · next hkey hreading =>
      split at h
      · next hstrict =>
          obtain rfl := Option.some.inj h
          have haccepts : m.key.all rules.accepts = true := by
            simpa [Option.filter_eq_none_iff, Option.all_eq_true] using hkey
          exact .malformed hspells haccepts hreading hstrict
      · cases h
  · cases h

/-- What is reported is a match that the text starts with, or a run without blanks that is skipped. -/
theorem covered_of_content {before : Option Char} {after : List Char} {s : Segment} {p : Problem}
    (hne : after ≠ []) (hcontent : Content.at rules before after = s.content)
    (hp : s.problem? rules = some p) :
    ∃ piece rest, after = piece ++ rest ∧ piece.head?.any (!Text.isBlank ·) = true ∧
      Fault rules s.content piece p.cause := by
  obtain ⟨position, content⟩ := s
  obtain ⟨c, tail, rfl⟩ := List.exists_cons_of_ne_nil hne
  cases content with
  | blank => cases hp
  | found m =>
      obtain ⟨hstart, hm⟩ := at?_of_content hcontent
      obtain ⟨piece, rest, htext, hspells⟩ := Match.spelledAt_of_at? hm
      refine ⟨piece, rest, htext, ?_, fault_of_problem? hspells hp⟩
      rw [htext, List.head?_append_of_ne_nil _ hspells.ne_nil] at hstart
      obtain ⟨d, piece, rfl⟩ := List.exists_cons_of_ne_nil hspells.ne_nil
      simpa using hstart
  | skipped run =>
      obtain ⟨hstart, -, rfl⟩ := at?_of_skipped hcontent
      have hc : Text.isBlank c = false := by simpa using hstart
      refine ⟨_, (c :: tail).dropWhile (!Text.isBlank ·), List.takeWhile_append_dropWhile.symm, ?_, ?_⟩
      · simp [hc]
      · obtain rfl := Option.some.inj hp
        exact .skipped

end Segment

namespace TokenStream

variable {rules : Rules}

/-- Each report is about a segment, and its place is where the characters of that segment start. -/
theorem exists_fault {text : String} {p : Problem} (hp : p ∈ (ofText rules text).problems) :
    ∃ front piece rest content, text.toList = front ++ (piece ++ rest) ∧ front.length = p.position ∧
      Content.at rules front.getLast? (piece ++ rest) = content ∧
      ⟨p.position, content⟩ ∈ Segment.ofText rules text.toList ∧
      piece.head?.any (!Text.isBlank ·) = true ∧ Fault rules content piece p.cause := by
  obtain ⟨s, hs, hproblem⟩ := List.mem_filterMap.mp hp
  obtain ⟨front, after, htext, hposition, hne, hcontent⟩ :=
    (Segment.splits_following rules none 0 text.toList).at_of_mem hs
  obtain ⟨piece, rest, rfl, hstart, hfault⟩ := Segment.covered_of_content hne hcontent hproblem
  rw [Option.or_none] at hcontent
  have hplace := Segment.position_of_problem? hproblem
  refine ⟨front, piece, rest, s.content, htext, ?_, hcontent, ?_, hstart, hfault⟩
  · rw [hplace, hposition, Nat.zero_add]
  · rw [hplace]
    exact hs

/-- A run that is reported as unexpected is the longest without blanks at its place, and nothing can be read
there. -/
theorem exists_of_unexpected {text : String} {value : String} {position : Nat}
    (hp : ⟨.unexpected value, position⟩ ∈ (ofText rules text).problems) :
    ∃ front rest, text.toList = front ++ (value.toList ++ rest) ∧ front.length = position ∧
      value.toList ≠ [] ∧ (∀ c ∈ value.toList, Text.isBlank c = false) ∧
      rest.head?.all Text.isBlank = true ∧ Match.Unread front.getLast? (value.toList ++ rest) := by
  obtain ⟨front, piece, rest, content, htext, hposition, hcontent, -, hstart, hfault⟩ := exists_fault hp
  cases hfault with
  | skipped =>
      obtain ⟨hblank, hnone, hrun⟩ := Segment.at?_of_skipped hcontent
      obtain ⟨c, run, rfl⟩ : ∃ c run, piece = c :: run := by
        cases piece with
        | nil => cases hstart
        | cons c run => exact ⟨c, run, rfl⟩
      have hrest : rest = (c :: run ++ rest).dropWhile (!Text.isBlank ·) := by
        have hsplit := List.takeWhile_append_dropWhile (p := (!Text.isBlank ·)) (l := c :: run ++ rest)
        rw [← hrun] at hsplit
        exact (List.append_cancel_left hsplit).symm
      rw [String.toList_ofList]
      refine ⟨front, rest, htext, hposition, by simp, ?_, ?_, ?_⟩
      · intro d hd
        rw [hrun] at hd
        simpa using List.all_eq_true.mp List.all_takeWhile d hd
      · rw [hrest]
        simpa using Match.head?_dropWhile_all (!Text.isBlank ·) (c :: run ++ rest)
      · exact (Match.at?_eq_none_iff (by simpa using hstart)).mp hnone

/-- Where nothing can be read, no match starts: what starts there is skipped, and reported. -/
theorem unexpected_of_unread {text : String} {front after : List Char}
    (htext : text.toList = front ++ after) (hunread : Match.Unread front.getLast? after) {s : Segment}
    (hs : s ∈ Segment.ofText rules text.toList) (hposition : s.position = front.length) :
    s.content = .skipped (after.takeWhile (!Text.isBlank ·)) ∧
      ⟨.unexpected (String.ofList (after.takeWhile (!Text.isBlank ·))), front.length⟩ ∈
        (ofText rules text).problems := by
  obtain ⟨front', after', htext', hposition', hne, hcontent⟩ :=
    (Segment.splits_following rules none 0 text.toList).at_of_mem hs
  obtain ⟨rfl, rfl⟩ : front = front' ∧ after = after' :=
    List.append_inj (htext.symm.trans htext') (by omega)
  have hskipped : s.content = .skipped (after.takeWhile (!Text.isBlank ·)) := by
    rw [← hcontent, Option.or_none, Content.at, hunread.at?_eq_none, hunread.head?_isBlank]
    rfl
  refine ⟨hskipped, List.mem_filterMap.mpr ⟨s, hs, ?_⟩⟩
  obtain ⟨position, content⟩ := s
  obtain rfl : content = _ := hskipped
  obtain rfl : position = _ := hposition
  rfl

/-! ## Hints -/

/-- Of the texts that cannot be read, those with a hint start with a quote or a parenthesis. -/
theorem mends_of_unread {before : Option Char} {after : List Char} {value hint : String}
    (hunread : Match.Unread before after) (hhead : value.toList.head? = after.head?)
    (hhint : (Problem.Cause.unexpected value).hint? = some hint) : Match.Mends rules before after hint := by
  simp only [Problem.Cause.hint?, hhead] at hhint
  cases hunread with
  | stray hc =>
      obtain ⟨⟨hopen, -, -, -⟩, hquote, hslash, -⟩ := Match.strays_start hc
      simp [hquote, hslash, hopen] at hhint
  | quote hrest =>
      obtain rfl := Option.some.inj hhint
      exact .quote hrest (Match.at?_closedQuote hrest)
  | group hd =>
      obtain rfl := Option.some.inj hhint
      obtain ⟨hblank, hopen⟩ := Bool.or_eq_false_iff.mp hd
      exact .parenthesis hblank (by simpa using hopen) (Match.at?_openGroup rfl _)
  | negatedGroup hc hd => rcases hc with rfl | rfl <;> simp at hhint

end TokenStream

/-! ## Carets -/

/-- The report shows the query behind a margin, and under the first character of the piece a caret. -/
def Problem.PointsAt (query : String) (piece : List Char) (p : Problem) : Prop :=
  ∃ margin rest, ' ' :: ' ' :: query.toList = margin ++ (piece ++ rest) ∧
    margin.length = p.position + 2 ∧ '\n' ∉ margin ++ (piece ++ rest) ∧
    (p.report query).toList =
      ("query error: " ++ p.cause.message).toList ++ '\n' :: (margin ++ (piece ++ rest)) ++
        '\n' :: (margin.map (fun _ => ' ') ++ '^' ::
          (p.cause.hint?.elim "" ("\nhint: " ++ ·)).toList)

theorem Problem.report_eq (query : String) (p : Problem) :
    p.report query = "query error: " ++ p.cause.message ++ "\n  " ++ query ++ "\n  " ++
      String.ofList (List.replicate (min p.position query.length) ' ') ++ "^" ++
      p.cause.hint?.elim "" ("\nhint: " ++ ·) := by
  unfold report
  cases p.cause.hint? with
  | none => rfl
  | some h => rfl

theorem Problem.pointsAt {p : Problem} {query : String} {front piece rest : List Char}
    (hquery : query.toList = front ++ (piece ++ rest)) (hposition : front.length = p.position)
    (hlines : '\n' ∉ query.toList) : p.PointsAt query piece := by
  have hle : p.position ≤ query.length := by
    rw [← hposition, ← String.length_toList, hquery, List.length_append]
    exact Nat.le_add_right ..
  have hcolumn : min p.position query.length = front.length := by
    rw [Nat.min_eq_left hle, hposition]
  refine ⟨' ' :: ' ' :: front, rest, by simp [hquery], by simp [hposition], ?_, ?_⟩
  · simpa [hquery] using hlines
  · have hbreak : "\n  ".toList = ['\n', ' ', ' '] := rfl
    have hcaret : "^".toList = ['^'] := rfl
    rw [report_eq, hcolumn]
    simp only [String.toList_append, String.toList_ofList, hbreak, hcaret, hquery]
    simp

/-! ## Texts and queries -/

/-- What the reports of unexpected syntax owe to the text. -/
structure TokenStream.ReportsUnread (rules : Rules) (text : List Char) (segments : List Segment)
    (problems : List Problem) : Prop where
  /-- Each is about the longest run without blanks at its place, and nothing can be read there. -/
  unexpected : ∀ value position, ⟨.unexpected value, position⟩ ∈ problems →
    ∃ front rest, text = front ++ (value.toList ++ rest) ∧ front.length = position ∧
      value.toList ≠ [] ∧ (∀ c ∈ value.toList, Text.isBlank c = false) ∧
      rest.head?.all Text.isBlank = true ∧ Match.Unread front.getLast? (value.toList ++ rest)
  /-- Where nothing can be read, no match starts: what starts there is skipped, and reported. -/
  unread : ∀ front after, text = front ++ after → Match.Unread front.getLast? after →
    ∀ s ∈ segments, s.position = front.length →
      s.content = .skipped (after.takeWhile (!Text.isBlank ·)) ∧
        ⟨.unexpected (String.ofList (after.takeWhile (!Text.isBlank ·))), front.length⟩ ∈ problems
  /-- A hint holds, and that of a slash that is not closed is never given. -/
  hints : ∀ value position hint, ⟨.unexpected value, position⟩ ∈ problems →
    (Problem.Cause.unexpected value).hint? = some hint →
      ∃ front after, text = front ++ after ∧ front.length = position ∧
        Match.Mends rules front.getLast? after hint

theorem TokenStream.reportsUnread (rules : Rules) (text : String) :
    ReportsUnread rules text.toList (Segment.ofText rules text.toList) (ofText rules text).problems where
  unexpected _ _ hp := exists_of_unexpected hp
  unread _ _ htext hunread _ hs hposition := unexpected_of_unread htext hunread hs hposition
  hints := by
    intro value position hint hp hhint
    obtain ⟨front, rest, htext, hposition, hne, -, -, hunread⟩ := exists_of_unexpected hp
    exact ⟨front, _, htext, hposition,
      mends_of_unread hunread (List.head?_append_of_ne_nil _ hne).symm hhint⟩

/-- A query that is short enough is read. -/
theorem TokenStream.ofQuery_of_admits {rules : Rules} {q : String} (h : rules.admits q = true) :
    ofQuery rules q = ofText rules q := by
  unfold Rules.admits at h
  unfold ofQuery
  cases hlimit : rules.maxQueryLength with
  | none => rfl
  | some limit =>
      have hle : q.length ≤ limit := by simpa [hlimit] using h
      simp only [if_neg (Nat.not_lt_of_le hle)]

/-- The problems of a query that is short enough are those of its normal spelling. -/
theorem Parsed.problems_of_admits {rules : Rules} {q : String}
    (h : rules.admits (Text.normalize q) = true) :
    (Parsed.ofQuery rules q).problems = (TokenStream.ofText rules (Text.normalize q)).problems :=
  congrArg TokenStream.problems (TokenStream.ofQuery_of_admits h)

/-- No line ends in the normal spelling of a query. -/
theorem Text.newline_notMem_normalize (q : String) : '\n' ∉ (Text.normalize q).toList := by
  intro hmem
  have hblank := (Text.mem_of_mem_normalize hmem (by decide)).2
  cases hblank

/-- **Reports point at what they are about.** Unexpected syntax is reported exactly where nothing can be
read, with hints that hold; and under a query that is short enough to be read, the caret of each report stands
below the first character of the text that is skipped or left out. -/
theorem Parsed.reports_pointAt (rules : Rules) (q : String) :
    (∀ text : String, TokenStream.ReportsUnread rules text.toList (Segment.ofText rules text.toList)
        (TokenStream.ofText rules text).problems) ∧
      (rules.admits (Text.normalize q) = true →
        (Parsed.ofQuery rules q).problems = (TokenStream.ofText rules (Text.normalize q)).problems ∧
          ∀ p ∈ (Parsed.ofQuery rules q).problems, ∃ content piece,
            ⟨p.position, content⟩ ∈ Segment.ofText rules (Text.normalize q).toList ∧
              Segment.Fault rules content piece p.cause ∧ piece.head?.any (!Text.isBlank ·) = true ∧
              p.PointsAt (Parsed.ofQuery rules q).query piece) := by
  refine ⟨TokenStream.reportsUnread rules, ?_⟩
  intro hadmitted
  refine ⟨problems_of_admits hadmitted, ?_⟩
  intro p hp
  rw [problems_of_admits hadmitted] at hp
  obtain ⟨front, piece, rest, content, htext, hposition, -, hmem, hstart, hfault⟩ :=
    TokenStream.exists_fault hp
  exact ⟨content, piece, hmem, hfault, hstart,
    Problem.pointsAt htext hposition (Text.newline_notMem_normalize q)⟩

/-- A key that is not allowed, and behind a word a quote that is not closed. -/
theorem Parsed.reports_pointAt_quote :
    let rules : Rules := { validKeys := some ["made"] }
    let q := "price:1   a\"b c"
    (rules.admits (Text.normalize q) = true ∧ (Parsed.ofQuery rules q).problems =
        [⟨.invalidKey "price" "1", 0⟩, ⟨.unexpected "\"b", 9⟩]) ∧
      (∃ front after, (Text.normalize q).toList = front ++ after ∧ front.length = 9 ∧
        Match.Mends rules front.getLast? after "Add a closing quote (\") to complete the phrase") ∧
      ∃ content piece, ⟨9, content⟩ ∈ Segment.ofText rules (Text.normalize q).toList ∧
        Segment.Fault rules content piece (.unexpected "\"b") ∧
        piece.head?.any (!Text.isBlank ·) = true ∧
        (⟨.unexpected "\"b", 9⟩ : Problem).PointsAt (Parsed.ofQuery rules q).query piece := by
  intro rules q
  have hadmitted : rules.admits (Text.normalize q) = true := by decide +kernel
  have hproblems : (Parsed.ofQuery rules q).problems =
      [⟨.invalidKey "price" "1", 0⟩, ⟨.unexpected "\"b", 9⟩] := by decide +kernel
  have hquote : ⟨.unexpected "\"b", 9⟩ ∈ (Parsed.ofQuery rules q).problems := by simp [hproblems]
  have hhint : (Problem.Cause.unexpected "\"b").hint? =
      some "Add a closing quote (\") to complete the phrase" := by decide
  obtain ⟨hunread, hpoints⟩ := reports_pointAt rules q
  obtain ⟨hread, hcarets⟩ := hpoints hadmitted
  refine ⟨⟨hadmitted, hproblems⟩, ?_, hcarets _ hquote⟩
  rw [hread] at hquote
  exact (hunread (Text.normalize q)).hints "\"b" 9 _ hquote hhint

end RecordQuery
