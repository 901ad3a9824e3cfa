import RecordQuery.Proofs.Query.Operand
import RecordQuery.Proofs.Record.Complement
import RecordQuery.Proofs.Record.Interval

/-!
# Records kept by a query with a range

A range of dates keeps its meaning in a query: behind an OR it adds the records that it keeps by itself,
and a negation before it leaves those that it does not keep. A range of numbers does so only where it is
read as one operand.
-/

namespace RecordQuery

namespace Builder

/-- One operand and an OR have been read, and nothing else is open. -/
structure AwaitsOr (b : Builder) (t : Tree) : Prop where
  tree : b.current.tree = some t
  waiting : b.current.waiting = some .or
  outer : b.outer = []
  negate : b.negate = false

/-- The OR is left without its other side at the end of the query. -/
theorem AwaitsOr.tree_eq {q : String} {t : Tree} (h : (after q).AwaitsOr t) :
    (Parsed.ofQuery {} q).tree = some t := by
  show finish (after q).current (after q).outer = some t
  rw [h.outer]
  exact h.tree

/-- A range of dates is added as one operand. -/
theorem exists_operand (key : String) {low high : Literal} (hkind : low.SameKind high)
    (hdate : low.isPeriod = true) :
    ∃ t, Tree.ofTokens? (Token.unplaced (Literal.rangeKinds key low high)) = some t ∧
      t.isNegated = false ∧ ∀ b : Builder,
        (Token.unplaced (Literal.rangeKinds key low high)).foldl step b =
          { b with current := b.current.attach (t.negateIf b.negate), negate := false } := by
  cases low with
  | number x => cases hdate
  | period p =>
      cases high with
      | number y => cases hkind
      | period q => exact ⟨_, rfl, rfl, fun b => rfl⟩

end Builder

/-- Blanks at the ends of a query do not matter. -/
theorem Tree.ofQuery?_congr {q q' : String} (h : Text.normalize q = Text.normalize q') :
    Tree.ofQuery? q = Tree.ofQuery? q' := by
  simp only [Tree.ofQuery?, Parsed.ofQuery, h]

section
variable {key low high : String} {a b : Literal} (hkey : Match.isKey key.toList = true)
  (ha : Literal.classify low.toList = .valid a) (hb : Literal.classify high.toList = .valid b)
  (hkind : a.SameKind b) (hdate : a.isPeriod = true)

include hkey ha hb hkind hdate in
/-- A range of dates at the end of a query is added to what has been read, negated if a negation waits or
stands before it. -/
theorem Tree.exists_endRange :
    ∃ t, Tree.ofTokens? (Token.unplaced (Literal.rangeKinds key a b)) = some t ∧ t.isNegated = false ∧
      ∀ first sign : String, '"' ∉ first.toList → '/' ∉ first.toList → IsSign sign.toList →
        Tree.ofQuery? (first ++ " " ++ (sign ++ (key ++ ":" ++ low ++ ".." ++ high))) =
          Builder.finish
            ((Builder.after first).unplaced.current.attach
              (t.negateIf ((Builder.after first).negate || !sign.toList.isEmpty)))
            (Builder.after first).unplaced.outer := by
  obtain ⟨t, ht, hroot, hadd⟩ := Builder.exists_operand key hkind hdate
  refine ⟨t, ht, hroot, ?_⟩
  intro first sign hquote hslash hsign
  -- A range at the end is a range with the empty query after it.
  have hspace := Tree.ofQuery?_congr
    (Text.normalize_append_space (first ++ " " ++ (sign ++ (key ++ ":" ++ low ++ ".." ++ high))))
  have hrange := Tree.ofQuery?_range "" hkey ha hb hkind hsign hquote hslash
  rw [String.append_empty, hspace] at hrange
  have hback : Token.unplaced ((Parsed.ofQuery {} "").tokens.map Token.kind) = [] := by decide +kernel
  rw [hrange, hback, List.append_nil, Tree.ofTokens?, List.foldl_append, Builder.unplaced_after,
    Token.unplaced_append, List.foldl_append, Builder.foldl_signKinds, hadd]
  rfl

end

/-! ## Records -/

section
variable {key low high : String} {a b : Literal} (hkey : Match.isKey key.toList = true)
  (hmarker : Direction.ofKey? (some key) = none) (ha : Literal.classify low.toList = .valid a)
  (hb : Literal.classify high.toList = .valid b) (hkind : a.SameKind b) (hdate : a.isPeriod = true)

theorem RecordFilter.ofParsed_of_ofQuery? {engine : Engine} {caseSensitive : Bool} {q : String} {t : Tree}
    {p : Option Predicate}
    (ht : Tree.ofQuery? q = some t) (hp : Predicate.ofTree engine caseSensitive t = .ok p) :
    ∃ f, RecordFilter.ofParsed caseSensitive (Parsed.ofQuery {} q) engine = .ok f ∧ f.predicate = p := by
  obtain ⟨u, hu, rfl⟩ := Option.map_eq_some_iff.mp ht
  exact ⟨_, RecordFilter.ofParsed_of_tree hu (Predicate.ofTree_of_unplaced hp), rfl⟩

include hkey ha hb hkind hmarker in
/-- The filter of a range makes its two tests. -/
theorem RecordFilter.predicate_ranged {engine : Engine} {caseSensitive : Bool} {r : RecordFilter}
    (hr : RecordFilter.ofParsed caseSensitive
      (Parsed.ofQuery {} (key ++ ":" ++ low ++ ".." ++ high)) engine = .ok r) :
    r.predicate = some (Literal.rangePredicate key a b) := by
  obtain ⟨f, hf, hpredicate⟩ := RecordFilter.ofParsed_ranged engine caseSensitive hkey hmarker ha hb hkind
  obtain rfl := Except.ok.inj (hf.symm.trans hr)
  exact hpredicate

include hkey ha hb hkind hmarker hdate in
/-- A negation before a range of dates keeps the records that the range does not keep. -/
theorem RecordFilter.keeps_negatedRange {engine : Engine} {caseSensitive : Bool} {sign : String}
    (hsign : IsSign sign.toList) (hne : sign ≠ "") {r : RecordFilter}
    (hr : RecordFilter.ofParsed caseSensitive
      (Parsed.ofQuery {} (key ++ ":" ++ low ++ ".." ++ high)) engine = .ok r) :
    ∃ g, RecordFilter.ofParsed caseSensitive
        (Parsed.ofQuery {} (sign ++ (key ++ ":" ++ low ++ ".." ++ high))) engine = .ok g ∧
      ∀ record, g.keeps record = !r.keeps record := by
  obtain ⟨t, ht, hroot, hend⟩ := Tree.exists_endRange hkey ha hb hkind hdate
  obtain ⟨u, hu, hp⟩ := Literal.ofTree_rangeKinds engine caseSensitive hmarker hkind
  obtain rfl : t = u := Option.some.inj (ht.symm.trans hu)
  have htree := hend "" sign (by simp) (by simp) hsign
  have hspace : Text.normalize ("" ++ " " ++ (sign ++ (key ++ ":" ++ low ++ ".." ++ high))) =
      Text.normalize (sign ++ (key ++ ":" ++ low ++ ".." ++ high)) := by
    rw [String.empty_append, Text.normalize_space_append]
  have hafter : Builder.after "" = {} := by
    have hnone : (Parsed.ofQuery {} "").tokens = [] := by decide +kernel
    rw [Builder.after, hnone, List.foldl_nil]
  have hsome : sign.toList.isEmpty = false := by simpa using hne
  rw [Tree.ofQuery?_congr hspace, hafter, hsome] at htree
  obtain ⟨g, hg, hnegated⟩ := ofParsed_of_ofQuery? htree (Predicate.ofTree_negate hroot hp)
  refine ⟨g, hg, fun record => ?_⟩
  rw [keeps, keeps, hnegated, predicate_ranged hkey hmarker ha hb hkind hr]
  exact Predicate.eval_negate record _

include hkey ha hb hkind hmarker hdate in
/-- After an operand and an OR, a range of dates adds the records that it keeps. -/
theorem RecordFilter.keeps_orRange {engine : Engine} {caseSensitive : Bool} {first : String}
    (hquote : '"' ∉ first.toList) (hslash : '/' ∉ first.toList) {x : Tree}
    (hx : (Builder.after first).AwaitsOr x) (hterm : ∃ c ∈ x.conditions, c.term.isSortMarker = false)
    {f r : RecordFilter}
    (hf : RecordFilter.ofParsed caseSensitive (Parsed.ofQuery {} first) engine = .ok f)
    (hr : RecordFilter.ofParsed caseSensitive
      (Parsed.ofQuery {} (key ++ ":" ++ low ++ ".." ++ high)) engine = .ok r) :
    ∃ g, RecordFilter.ofParsed caseSensitive
        (Parsed.ofQuery {} (first ++ " " ++ (key ++ ":" ++ low ++ ".." ++ high))) engine = .ok g ∧
      ∀ record, g.keeps record = (f.keeps record || r.keeps record) := by
  obtain ⟨t, ht, hroot, hend⟩ := Tree.exists_endRange hkey ha hb hkind hdate
  obtain ⟨u, hu, hp⟩ := Literal.ofTree_rangeKinds engine caseSensitive hmarker hkind
  obtain rfl : t = u := Option.some.inj (ht.symm.trans hu)
  have htree := hend first "" hquote hslash (.inl rfl)
  have hboth : Tree.ofQuery? (first ++ " " ++ (key ++ ":" ++ low ++ ".." ++ high)) =
      some (.node .or x.unplaced t false) := by
    rw [String.empty_append] at htree
    rw [htree]
    simp [Builder.unplaced, Builder.Frame.unplaced, Builder.Frame.attach, hx.tree, hx.waiting, hx.outer,
      hx.negate, Builder.finish, Tree.negateIf]
  have hleft := ofTree_of_ofParsed hx.tree_eq hf
  have hside := Predicate.ofTree_eq_ok_of_unplaced x.unplaced_unplaced.symm hleft
  obtain ⟨g, hg, hjoined⟩ :=
    ofParsed_of_ofQuery? hboth (Predicate.ofTree_node_eq_ok.mpr ⟨_, _, hside, hp, rfl⟩)
  -- Were there sort markers alone on the left, the OR would be the range by itself.
  obtain ⟨p, htests⟩ := Option.isSome_iff_exists.mp (Predicate.isSome_of_ofTree hleft hterm)
  refine ⟨g, hg, fun record => ?_⟩
  rw [keeps, keeps, keeps, hjoined, predicate_ranged hkey hmarker ha hb hkind hr, htests]
  simp [Predicate.join, Predicate.eval, Connective.eval]

end

/-- **Ranges as operands.** A range of dates has the tree that it has in parentheses, whatever stands
around it: a negation of it keeps the records that it does not keep, and after an operand and an OR it
adds the records that it keeps. A range of numbers has the tree of the comparisons with its two ends; it
has the tree that it has in parentheses where it is the first operand of its group and no negation waits
for it. -/
theorem Literal.range_operand (sign first last : String) {key low high : String} {a b : Literal}
    (hkey : Match.isKey key.toList = true) (ha : classify low.toList = .valid a)
    (hb : classify high.toList = .valid b) (hkind : a.SameKind b) (hsign : sign ∈ ["", "-", "!"])
    (hquote : '"' ∉ first.toList) (hslash : '/' ∉ first.toList) :
    let range := key ++ ":" ++ low ++ ".." ++ high
    let around := fun piece : String => Tree.ofQuery? (first ++ " " ++ (sign ++ piece) ++ " " ++ last)
    (a.isPeriod = true → around range = around ("(" ++ range ++ ")")) ∧
      (a.isPeriod = false →
        around range = around (key ++ ">=" ++ low ++ " " ++ key ++ "<=" ++ high) ∧
        (sign = "" → (Builder.after first).AtStart → around range = around ("(" ++ range ++ ")"))) ∧
      (a.isPeriod = true → key ≠ "asc" → key ≠ "desc" → ∀ (engine : Engine) (caseSensitive : Bool), ∃ r,
        RecordFilter.ofParsed caseSensitive (Parsed.ofQuery {} range) engine = .ok r ∧
        (sign ≠ "" → ∃ g,
          RecordFilter.ofParsed caseSensitive (Parsed.ofQuery {} (sign ++ range)) engine = .ok g ∧
          ∀ record, g.keeps record = !r.keeps record) ∧
        ∀ t f, (Builder.after first).AwaitsOr t →
          (∃ c ∈ t.conditions, c.term.isSortMarker = false) →
          RecordFilter.ofParsed caseSensitive (Parsed.ofQuery {} first) engine = .ok f → ∃ g,
            RecordFilter.ofParsed caseSensitive (Parsed.ofQuery {} (first ++ " " ++ range)) engine = .ok g ∧
            ∀ record, g.keeps record = (f.keeps record || r.keeps record)) := by
  intro range around
  have hsign' : IsSign sign.toList := by
    simp only [List.mem_cons, List.not_mem_nil, or_false] at hsign
    rcases hsign with rfl | rfl | rfl
    · exact .inl rfl
    · exact .inr (.inl rfl)
    · exact .inr (.inr rfl)
  refine ⟨?dates, ?numbers, ?records⟩
  case dates => exact Tree.ofQuery?_dateRange last hkey ha hb hkind hsign' hquote hslash
  case numbers =>
    intro hnumber
    refine ⟨Tree.ofQuery?_numberRange last hkey ha hb hkind hsign' hquote hslash hnumber, ?_⟩
    rintro rfl hstart
    exact Tree.ofQuery?_numberRange_of_atStart last hkey ha hb hkind hquote hslash hnumber hstart
  case records =>
    intro hdate hasc hdesc engine caseSensitive
    have hmarker : Direction.ofKey? (some key) = none := by
      simp [Direction.ofKey?, Direction.marker, hasc, hdesc]
    obtain ⟨r, hr, -⟩ := RecordFilter.ofParsed_ranged engine caseSensitive hkey hmarker ha hb hkind
    refine ⟨r, hr, ?_, ?_⟩
    · exact fun hne => RecordFilter.keeps_negatedRange hkey hmarker ha hb hkind hdate hsign' hne hr
    · exact fun t f ht hterm hf =>
        RecordFilter.keeps_orRange hkey hmarker ha hb hkind hdate hquote hslash ht hterm hf hr

/-- Dates after an OR and a negation, and numbers at the start of a group that another query leaves open. -/
theorem Literal.range_operand_sides :
    let day : Literal := .period (span ⟨2024, 2, 10⟩ ⟨2024, 2, 11⟩)
    let month : Literal := .period (span ⟨2024, 3, 1⟩ ⟨2024, 4, 1⟩)
    let one : Literal := .number (.ofNat 1)
    let two : Literal := .number (.ofNat 2)
    let x : Tree := .leaf ⟨.text none .word "x", 0, false⟩
    (Match.isKey "made".toList = true ∧ classify "2024-02-10".toList = .valid day ∧
      classify "2024-03".toList = .valid month ∧ day.SameKind month ∧ "-" ∈ ["", "-", "!"] ∧
      '"' ∉ "x OR".toList ∧ '/' ∉ "x OR".toList ∧ day.isPeriod = true ∧ "made" ≠ "asc" ∧
      "made" ≠ "desc" ∧ (Builder.after "x OR").AwaitsOr x ∧
      (∃ c ∈ x.conditions, c.term.isSortMarker = false) ∧
      Tree.ofQuery? "x OR -made:2024-02-10..2024-03 y" =
        Tree.ofQuery? "x OR -(made:2024-02-10..2024-03) y" ∧
      ∃ f r g, RecordFilter.ofParsed false (Parsed.ofQuery {} "x OR") = .ok f ∧
        RecordFilter.ofParsed false (Parsed.ofQuery {} "made:2024-02-10..2024-03") = .ok r ∧
        RecordFilter.ofParsed false (Parsed.ofQuery {} "x OR made:2024-02-10..2024-03") = .ok g ∧
        ∀ record, g.keeps record = (f.keeps record || r.keeps record)) ∧
    (Match.isKey "price".toList = true ∧ classify "1".toList = .valid one ∧
      classify "2".toList = .valid two ∧ one.SameKind two ∧ "" ∈ ["", "-", "!"] ∧
      '"' ∉ "x OR (".toList ∧ '/' ∉ "x OR (".toList ∧ one.isPeriod = false ∧
      (Builder.after "x OR (").AtStart ∧
      Tree.ofQuery? "x OR ( price:1..2 )" = Tree.ofQuery? "x OR ( (price:1..2) )") := by
  intro day month one two x
  refine ⟨?dates, ?numbers⟩
  case dates =>
    have hkey : Match.isKey "made".toList = true := by decide
    have hday : classify "2024-02-10".toList = .valid day := by decide +kernel
    have hmonth : classify "2024-03".toList = .valid month := by decide +kernel
    have hx : (Builder.after "x OR").AwaitsOr x := by constructor <;> decide +kernel
    have hterm : ∃ c ∈ x.conditions, c.term.isSortMarker = false := by decide
    have hf := RecordFilter.ofParsed_of_tree hx.tree_eq
      (show Predicate.ofTree Regex.engine false x = .ok _ from rfl)
    obtain ⟨htree, -, hrecords⟩ := range_operand "-" "x OR" "y" hkey hday hmonth
      trivial (by decide) (by decide) (by decide)
    obtain ⟨r, hr, -, hor⟩ := hrecords rfl (by decide) (by decide) Regex.engine false
    obtain ⟨g, hg, hkeeps⟩ := hor x _ hx hterm hf
    exact ⟨hkey, hday, hmonth, trivial, by decide, by decide, by decide, rfl, by decide, by decide, hx,
      hterm, htree rfl, _, r, g, hf, hr, hg, hkeeps⟩
  case numbers =>
    have hkey : Match.isKey "price".toList = true := by decide
    have hone : classify "1".toList = .valid one := by decide +kernel
    have htwo : classify "2".toList = .valid two := by decide +kernel
    have hstart : (Builder.after "x OR (").AtStart := by constructor <;> decide +kernel
    obtain ⟨-, htree, -⟩ := range_operand "" "x OR (" ")" hkey hone htwo trivial
      (by decide) (by decide) (by decide)
    exact ⟨hkey, hone, htwo, trivial, by decide, by decide, by decide, rfl, hstart,
      (htree rfl).2 rfl hstart⟩

/-- After an OR, only the first comparison of a range of numbers is its other side: `x OR price:1..2`
does not keep what `x` keeps. -/
theorem Literal.range_operand_split :
    let record : Json := .object [("title", .string "x"), ("price", .number (.integer 5))]
    Match.isKey "price".toList = true ∧ classify "1".toList = .valid (.number (.ofNat 1)) ∧
      classify "2".toList = .valid (.number (.ofNat 2)) ∧
      Tree.ofQuery? ("x OR" ++ " " ++ ("" ++ "price:1..2") ++ " " ++ "") ≠
        Tree.ofQuery? ("x OR" ++ " " ++ ("" ++ "(price:1..2)") ++ " " ++ "") ∧
      ∃ f g, RecordFilter.ofParsed false (Parsed.ofQuery {} "x") = .ok f ∧
        RecordFilter.ofParsed false (Parsed.ofQuery {} "x OR price:1..2") = .ok g ∧
        f.keeps record = true ∧ g.keeps record = false := by
  intro record
  have hx : (Parsed.ofQuery {} "x").tree = some (.leaf ⟨.text none .word "x", 0, false⟩) := by
    decide +kernel
  have hsplit : (Parsed.ofQuery {} "x OR price:1..2").tree = some (.node .and
      (.node .or (.leaf ⟨.text none .word "x", 0, false⟩)
        (.leaf ⟨.number "price" .atLeast (.ofNat 1), 5, false⟩) false)
      (.leaf ⟨.number "price" .atMost (.ofNat 2), 5, false⟩) false) := by decide +kernel
  exact ⟨by decide, by decide +kernel, by decide +kernel, by decide +kernel, _, _,
    RecordFilter.ofParsed_of_tree hx (show Predicate.ofTree Regex.engine false _ = .ok _ from rfl),
    RecordFilter.ofParsed_of_tree hsplit (show Predicate.ofTree Regex.engine false _ = .ok _ from rfl),
    by decide +kernel, by decide +kernel⟩

end RecordQuery
