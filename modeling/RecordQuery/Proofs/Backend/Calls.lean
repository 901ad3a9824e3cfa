import RecordQuery.Backend

/-!
# The calls of a fold

A backend may be any system with a state, so that what a fold does is told by the calls it makes. A
backend that records its calls answers as before, and its record shows the fold: one question for each
condition that is not on empty text, in order, and then the joints and negations that the tree asks for.
What the fold accounts for are the answers to its questions.
-/

namespace RecordQuery.Backend

variable {σ F O α β : Type}

/-! ## Calls -/

/-- A call of a backend, and what it gave. -/
inductive Call (F O : Type) where
  | condition (c : Condition) (given : Option F)
  | order (c : Condition) (given : Option O)
  | join (o : Connective) (left right given : F)
  | not (inner given : F)

/-- A call about a condition: what it asked for, and whether anything was given. -/
structure Question where
  condition : Condition
  asksOrder : Bool
  answered : Bool

namespace Call

/-- The question that a call asks, if it is about a condition. -/
def question? : Call F O → Option Question
  | condition c given => some ⟨c, false, given.isSome⟩
  | order c given => some ⟨c, true, given.isSome⟩
  | join .. | not .. => none

/-- The marker and the order of a call that gave one. -/
def ranking? : Call F O → Option (Condition × O)
  | order c (some o) => some (c, o)
  | _ => none

/-- Whether the backend answers the call so in one state, and goes over to the other. -/
def Holds (b : Backend σ F O) : Call F O → σ → σ → Prop
  | condition c given, s, s' => b.condition c s = (given, s')
  | order c given, s, s' => b.order c s = (given, s')
  | join .and l r given, s, s' => b.and l r s = (given, s')
  | join .or l r given, s, s' => b.or l r s = (given, s')
  | not inner given, s, s' => b.not inner s = (given, s')

end Call

/-- Whether the backend answers these calls one after the other, from one state to the other. -/
def Answers (b : Backend σ F O) : List (Call F O) → σ → σ → Prop
  | [], s, s' => s' = s
  | call :: rest, s, s' => ∃ s₁, call.Holds b s s₁ ∧ b.Answers rest s₁ s'

theorem Answers.append {b : Backend σ F O} {first second : List (Call F O)} {s s₁ s₂ : σ}
    (hfirst : b.Answers first s s₁) (hsecond : b.Answers second s₁ s₂) :
    b.Answers (first ++ second) s s₂ := by
  induction first generalizing s with
  | nil =>
      obtain rfl : s₁ = s := hfirst
      exact hsecond
  | cons call rest ih =>
      obtain ⟨s', hcall, hrest⟩ := hfirst
      exact ⟨s', hcall, ih hrest⟩

/-! ## Recording -/

/-- An action that adds a call to the record when it is done. -/
def record (call : α → Call F O) (act : StateM σ α) : StateM (σ × List (Call F O)) α :=
  fun (s, calls) => ((act s).1, (act s).2, calls ++ [call (act s).1])

/-- The backend with a record of its calls, the first of them first, beside its state. -/
def recorded (b : Backend σ F O) : Backend (σ × List (Call F O)) F O where
  condition c := record (.condition c) (b.condition c)
  order c := record (.order c) (b.order c)
  and l r := record (.join .and l r) (b.and l r)
  or l r := record (.join .or l r) (b.or l r)
  not f := record (.not f) (b.not f)

/-- The second action does what the first one does, and keeps a record of the calls it makes, which
stand in this relation to the result. -/
def Records (b : Backend σ F O) (act : StateM σ α) (recording : StateM (σ × List (Call F O)) α)
    (Made : List (Call F O) → α → Prop) : Prop :=
  ∀ s before, ∃ calls, recording (s, before) = ((act s).1, (act s).2, before ++ calls) ∧
    b.Answers calls s (act s).2 ∧ Made calls (act s).1

section Records

variable {b : Backend σ F O} {act : StateM σ α} {recording : StateM (σ × List (Call F O)) α}
  {Made : List (Call F O) → α → Prop}

theorem Records.pure {a : α} (h : Made [] a) :
    b.Records (pure a) (pure a) Made := by
  intro s before
  exact ⟨[], by rw [List.append_nil]; rfl, rfl, h⟩

/-- The calls of two actions, one after the other. -/
theorem Records.bind {next : α → StateM σ β} {recordingNext : α → StateM (σ × List (Call F O)) β}
    {Made' : List (Call F O) → β → Prop} (hact : b.Records act recording Made)
    (hnext : ∀ a first, Made first a →
      b.Records (next a) (recordingNext a) fun second c => Made' (first ++ second) c) :
    b.Records (act >>= next) (recording >>= recordingNext) Made' := by
  intro s before
  obtain ⟨first, hrun, hanswers, hmade⟩ := hact s before
  obtain ⟨second, hrun', hanswers', hmade'⟩ :=
    hnext (act s).1 first hmade (act s).2 (before ++ first)
  refine ⟨first ++ second, ?_, hanswers.append hanswers', hmade'⟩
  show recordingNext (recording (s, before)).1 (recording (s, before)).2 = _
  rw [hrun, hrun', List.append_assoc]
  rfl

theorem Records.single {call : α → Call F O}
    (h : ∀ s, (call (act s).1).Holds b s (act s).2) :
    b.Records act (record call act) fun calls a => calls = [call a] := by
  intro s before
  exact ⟨[call (act s).1], rfl, ⟨_, h s, rfl⟩, rfl⟩

end Records

/-! ## What a tree asks for -/

/-- The calls that join two filters, and what they come to: only two filters that are there are
joined, and one alone is left as it is. -/
inductive Joins (o : Connective) : Option F → Option F → List (Call F O) → Option F → Prop where
  | both (l r given : F) : Joins o (some l) (some r) [.join o l r given] (some given)
  | left (l : F) : Joins o (some l) none [] (some l)
  | right (r : F) : Joins o none (some r) [] (some r)
  | neither : Joins o none none [] none

/-- The calls that negate a filter, and what they come to: one if a filter is there and is to be
negated, else none. -/
inductive Negates : (negated : Bool) → Option F → List (Call F O) → Option F → Prop where
  | negated (inner given : F) : Negates true (some inner) [.not inner given] (some given)
  | plain (f : F) : Negates false (some f) [] (some f)
  | absent (negated : Bool) : Negates negated none [] none

/-- The calls for a tree within groups that are negated if `within` holds, and the filter they come to. A
leaf on empty text asks nothing, a sort marker for an order, and another leaf for a filter; a node has the
calls for its left side, those for its right side, and then its own. -/
inductive Folds : (within : Bool) → Tree → List (Call F O) → Option F → Prop where
  | passed {within : Bool} {c : Condition} (hempty : c.term.isEmpty = true) :
      Folds within (.leaf c) [] none
  | marker {within : Bool} {c : Condition} (hempty : c.term.isEmpty = false)
      (hmarker : c.term.isSortMarker = true) (given : Option O) :
      Folds within (.leaf c) [.order { c with negated := within || c.negated } given] none
  | test {within : Bool} {c : Condition} {given f : Option F} {nots : List (Call F O)}
      (hempty : c.term.isEmpty = false) (hmarker : c.term.isSortMarker = false)
      (hnots : Negates c.negated given nots f) :
      Folds within (.leaf c) (.condition { c with negated := within || c.negated } given :: nots) f
  | node {within : Bool} {o : Connective} {l r : Tree} {n : Bool} {f g joined whole : Option F}
      {left right joins nots : List (Call F O)} (hleft : Folds (within || n) l left f)
      (hright : Folds (within || n) r right g) (hjoins : Joins o f g joins joined)
      (hnots : Negates n joined nots whole) :
      Folds within (.node o l r n) (left ++ right ++ joins ++ nots) whole

/-- The questions among the calls. -/
def questions (calls : List (Call F O)) : List Question := calls.filterMap Call.question?

@[simp] theorem questions_append (first second : List (Call F O)) :
    questions (first ++ second) = questions first ++ questions second :=
  List.filterMap_append

@[simp] theorem questions_cons (call : Call F O) (rest : List (Call F O)) :
    questions (call :: rest) = call.question?.toList ++ questions rest := by
  cases call <;> rfl

theorem questions_of_silent {calls : List (Call F O)} (h : ∀ call ∈ calls, call.question? = none) :
    questions calls = [] :=
  List.filterMap_eq_nil_iff.mpr h

/-- Joining and negating ask nothing. -/
theorem Joins.silent {o : Connective} {l r given : Option F} {calls : List (Call F O)}
    (h : Joins o l r calls given) : ∀ call ∈ calls, call.question? = none := by
  cases h <;> simp [Call.question?]

theorem Negates.silent {n : Bool} {f given : Option F} {calls : List (Call F O)}
    (h : Negates n f calls given) : ∀ call ∈ calls, call.question? = none := by
  cases h <;> simp [Call.question?]

theorem Negates.of_absent {n : Bool} {f given : Option F} {calls : List (Call F O)}
    (h : Negates n f calls given) (hf : f = none) : calls = [] ∧ given = none := by
  cases h with
  | negated | plain => cases hf
  | absent => exact ⟨rfl, rfl⟩

/-- A fold asks about the conditions of the tree that are not on empty text, each once and in order. -/
theorem Folds.map_condition_questions {within : Bool} {t : Tree} {calls : List (Call F O)}
    {f : Option F} (h : Folds within t calls f) :
    (questions calls).map (·.condition) =
      (t.conditionsWithin within).filter (·.term.counts false) := by
  induction h with
  | passed hempty => simp [questions, Tree.conditionsWithin, Term.counts, hempty]
  | marker hempty hmarker given =>
      simp [questions, Call.question?, Tree.conditionsWithin, Term.counts, hempty]
  | test hempty hmarker hnots =>
      simp [Call.question?, Tree.conditionsWithin, Term.counts, hempty,
        questions_of_silent hnots.silent]
  | node hleft hright hjoins hnots ihl ihr =>
      simp [Tree.conditionsWithin, questions_of_silent hjoins.silent,
        questions_of_silent hnots.silent, ihl, ihr]

/-- A fold asks for the order of sort markers, and for a filter of all other conditions. -/
theorem Folds.asksOrder_eq {within : Bool} {t : Tree} {calls : List (Call F O)} {f : Option F}
    (h : Folds within t calls f) :
    ∀ q ∈ questions calls, q.asksOrder = q.condition.term.isSortMarker := by
  induction h with
  | passed hempty => simp [questions]
  | marker hempty hmarker given => simp [questions, Call.question?, hmarker]
  | test hempty hmarker hnots =>
      simp [Call.question?, hmarker, questions_of_silent hnots.silent]
  | node hleft hright hjoins hnots ihl ihr =>
      intro q hq
      simp only [questions_append, questions_of_silent hjoins.silent,
        questions_of_silent hnots.silent, List.append_nil, List.mem_append] at hq
      exact hq.elim (ihl q) (ihr q)

/-! ## What an outcome accounts for -/

/-- The orders that were given, each with its sort marker. -/
def rankings (calls : List (Call F O)) : List (Condition × O) := calls.filterMap Call.ranking?

@[simp] theorem rankings_append (first second : List (Call F O)) :
    rankings (first ++ second) = rankings first ++ rankings second :=
  List.filterMap_append

/-- The outcome with this filter that accounts for the calls. Each question is in one of three lists: it
gave a filter, it gave an order, or it was not answered. -/
def Outcome.ofCalls (calls : List (Call F O)) (filter : Option F) : Outcome F O where
  filter := filter
  order := (rankings calls).map (·.2)
  filtered := ((questions calls).filter fun q => q.answered && !q.asksOrder).map (·.condition)
  ordered := ((questions calls).filter fun q => q.answered && q.asksOrder).map (·.condition)
  dropped := ((questions calls).filter fun q => !q.answered).map (·.condition)

/-- There is one order for each marker among the ordered ones, in their order. -/
theorem Outcome.ordered_ofCalls (calls : List (Call F O)) (filter : Option F) :
    (ofCalls calls filter).ordered = (rankings calls).map (·.1) := by
  show ((questions calls).filter fun q => q.answered && q.asksOrder).map (·.condition) = _
  induction calls with
  | nil => rfl
  | cons call rest ih =>
      cases call with
      | condition c given => cases given <;> exact ih
      | order c given =>
          cases given with
          | none => exact ih
          | some o => exact congrArg (c :: ·) ih
      | join o l r given => exact ih
      | not inner given => exact ih

theorem Outcome.ofCalls_append (first second : List (Call F O)) (f g filter : Option F) :
    ofCalls (first ++ second) filter =
      { filter
        order := (ofCalls first f).order ++ (ofCalls second g).order
        filtered := (ofCalls first f).filtered ++ (ofCalls second g).filtered
        ordered := (ofCalls first f).ordered ++ (ofCalls second g).ordered
        dropped := (ofCalls first f).dropped ++ (ofCalls second g).dropped } := by
  simp [ofCalls]

/-- Calls that join or negate filters add nothing to the lists. -/
theorem Outcome.ofCalls_append_of_silent {calls more : List (Call F O)} (filter : Option F)
    (hmore : ∀ call ∈ more, call.question? = none) :
    ofCalls (calls ++ more) filter = ofCalls calls filter := by
  have hquestions := questions_of_silent hmore
  have hrankings : rankings more = [] := by
    refine List.filterMap_eq_nil_iff.mpr fun call hcall => ?_
    have hsilent := hmore call hcall
    cases call with
    | order c given => cases hsilent
    | condition c given => rfl
    | join o l r given => rfl
    | not inner given => rfl
  simp [ofCalls, hquestions, hrankings]

/-! ## The calls of a fold -/

theorem records_condition (b : Backend σ F O) (c : Condition) :
    b.Records (b.condition c) (b.recorded.condition c) fun calls given =>
      calls = [.condition c given] :=
  .single fun _ => rfl

theorem records_order (b : Backend σ F O) (c : Condition) :
    b.Records (b.order c) (b.recorded.order c) fun calls given => calls = [.order c given] :=
  .single fun _ => rfl

theorem records_and (b : Backend σ F O) (l r : F) :
    b.Records (b.and l r) (b.recorded.and l r) fun calls given =>
      calls = [.join .and l r given] :=
  .single fun _ => rfl

theorem records_or (b : Backend σ F O) (l r : F) :
    b.Records (b.or l r) (b.recorded.or l r) fun calls given => calls = [.join .or l r given] :=
  .single fun _ => rfl

theorem records_not (b : Backend σ F O) (f : F) :
    b.Records (b.not f) (b.recorded.not f) fun calls given => calls = [.not f given] :=
  .single fun _ => rfl

theorem records_join (b : Backend σ F O) (o : Connective) (f g : Option F) :
    b.Records (b.join o f g) (b.recorded.join o f g) (Joins o f g) := by
  cases f with
  | none =>
      cases g with
      | none => exact .pure .neither
      | some r => exact .pure (.right r)
  | some l =>
      cases g with
      | none => exact .pure (.left l)
      | some r =>
          cases o with
          | and =>
              refine (b.records_and l r).bind ?_
              rintro given _ rfl
              exact .pure (.both l r given)
          | or =>
              refine (b.records_or l r).bind ?_
              rintro given _ rfl
              exact .pure (.both l r given)

theorem records_negateIf (b : Backend σ F O) (n : Bool) (f : Option F) :
    b.Records (b.negateIf n f) (b.recorded.negateIf n f) (Negates n f) := by
  cases f with
  | none => exact .pure (.absent n)
  | some inner =>
      cases n with
      | false => exact .pure (.plain inner)
      | true =>
          refine (b.records_not inner).bind ?_
          rintro given _ rfl
          exact .pure (.negated inner given)

theorem records_ofCondition (b : Backend σ F O) (c : Condition) :
    b.Records (b.ofCondition c) (b.recorded.ofCondition c) fun calls x =>
      x = .ofCalls calls x.filter ∧
        if c.term.isSortMarker then (∃ given, calls = [.order c given]) ∧ x.filter = none
        else calls = [.condition c x.filter] := by
  unfold ofCondition
  cases c.term.isSortMarker with
  | true =>
      refine (b.records_order c).bind ?_
      rintro given _ rfl
      cases given with
      | none => exact .pure ⟨rfl, ⟨none, rfl⟩, rfl⟩
      | some o => exact .pure ⟨rfl, ⟨some o, rfl⟩, rfl⟩
  | false =>
      refine (b.records_condition c).bind ?_
      rintro given _ rfl
      cases given with
      | none => exact .pure ⟨rfl, rfl⟩
      | some f => exact .pure ⟨rfl, rfl⟩

theorem records_fold_leaf (b : Backend σ F O) (within : Bool) (c : Condition) :
    b.Records (b.fold within (.leaf c)) (b.recorded.fold within (.leaf c)) fun calls x =>
      x = .ofCalls calls x.filter ∧ Folds within (.leaf c) calls x.filter := by
  cases hempty : c.term.isEmpty with
  | true =>
      simp only [fold, hempty, if_true]
      exact .pure ⟨rfl, .passed hempty⟩
  | false =>
      simp only [fold, hempty]
      refine (b.records_ofCondition { c with negated := within || c.negated }).bind ?_
      rintro x calls ⟨hx, hcalls⟩
      refine (b.records_negateIf c.negated x.filter).bind ?_
      intro f nots hnots
      have hlists : ({ x with filter := f } : Outcome F O) = .ofCalls (calls ++ (nots ++ [])) f := by
        rw [List.append_nil, Outcome.ofCalls_append_of_silent f hnots.silent, hx]
        rfl
      refine .pure ⟨hlists, ?_⟩
      rw [List.append_nil]
      cases hmarker : c.term.isSortMarker with
      | true =>
          simp only [hmarker, if_true] at hcalls
          obtain ⟨⟨given, rfl⟩, hfilter⟩ := hcalls
          obtain ⟨rfl, rfl⟩ := hnots.of_absent hfilter
          exact .marker hempty hmarker given
      | false =>
          simp only [hmarker] at hcalls
          subst hcalls
          exact .test hempty hmarker hnots

/-- A fold makes the calls that its tree asks for, and accounts for them. -/
theorem records_fold (b : Backend σ F O) (within : Bool) (t : Tree) :
    b.Records (b.fold within t) (b.recorded.fold within t) fun calls x =>
      x = .ofCalls calls x.filter ∧ Folds within t calls x.filter := by
  induction t generalizing within with
  | leaf c => exact b.records_fold_leaf within c
  | node o l r n ihl ihr =>
      simp only [fold]
      refine (ihl (within || n)).bind ?_
      rintro x left ⟨hx, hleft⟩
      refine (ihr (within || n)).bind ?_
      rintro y right ⟨hy, hright⟩
      refine (b.records_join o x.filter y.filter).bind ?_
      intro joined joins hjoins
      refine (b.records_negateIf n joined).bind ?_
      intro whole nots hnots
      have hcalls : left ++ (right ++ (joins ++ (nots ++ []))) = left ++ right ++ joins ++ nots := by
        simp
      refine .pure ⟨?_, ?_⟩
      · rw [hcalls, Outcome.ofCalls_append_of_silent _ hnots.silent,
          Outcome.ofCalls_append_of_silent _ hjoins.silent,
          Outcome.ofCalls_append left right x.filter y.filter, ← hx, ← hy]
      · rw [hcalls]
        exact .node hleft hright hjoins hnots

/-- The calls for a query, and the filter they come to; a query without a tree has none. -/
def FoldsQuery (tree : Option Tree) (calls : List (Call F O)) (filter : Option F) : Prop :=
  match tree with
  | some t => Folds false t calls filter
  | none => calls = [] ∧ filter = none

theorem records_compile (b : Backend σ F O) (query : Parsed) :
    b.Records (b.compile query) (b.recorded.compile query) fun calls x =>
      x = .ofCalls calls x.filter ∧ FoldsQuery query.tree calls x.filter := by
  unfold compile
  cases query.tree with
  | none => exact .pure ⟨rfl, rfl, rfl⟩
  | some t => exact b.records_fold false t

theorem FoldsQuery.map_condition_questions {tree : Option Tree} {calls : List (Call F O)}
    {f : Option F} (h : FoldsQuery tree calls f) :
    (questions calls).map (·.condition) = conditionsOf false tree := by
  cases tree with
  | none =>
      obtain ⟨rfl, -⟩ := h
      rfl
  | some t => exact Folds.map_condition_questions h

theorem FoldsQuery.asksOrder_eq {tree : Option Tree} {calls : List (Call F O)} {f : Option F}
    (h : FoldsQuery tree calls f) :
    ∀ q ∈ questions calls, q.asksOrder = q.condition.term.isSortMarker := by
  cases tree with
  | none =>
      obtain ⟨rfl, -⟩ := h
      simp [questions]
  | some t => exact Folds.asksOrder_eq h

/-- **The account of a fold.** For every query and every backend: a record of its calls changes nothing,
and shows that the backend is asked about the conditions of the tree that are not on empty text, each
once, in order and with the negations around it: about sort markers for their order, about the others
for a filter. The lists of the outcome split these questions by their answers, with one order for each
ordered marker; and the filter is joined and negated, call by call, as the tree says. -/
theorem compile_account (b : Backend σ F O) (query : Parsed) (s : σ) :
    let run := (b.compile query).run s
    let outcome := run.1
    ∃ calls, (b.recorded.compile query).run (s, []) = (outcome, run.2, calls) ∧
      b.Answers calls s run.2 ∧
      (questions calls).map (·.condition) = conditionsOf false query.tree ∧
      (∀ q ∈ questions calls, q.asksOrder = q.condition.term.isSortMarker) ∧
      outcome = .ofCalls calls outcome.filter ∧
      outcome.ordered = (rankings calls).map (·.1) ∧
      FoldsQuery query.tree calls outcome.filter := by
  intro run outcome
  obtain ⟨calls, hcalls, hanswers, hlists, hfolds⟩ := b.records_compile query s []
  refine ⟨calls, hcalls, hanswers, hfolds.map_condition_questions, hfolds.asksOrder_eq, hlists, ?_,
    hfolds⟩
  have hordered : outcome.ordered = (Outcome.ofCalls calls outcome.filter).ordered :=
    congrArg Outcome.ordered hlists
  exact hordered.trans (Outcome.ordered_ofCalls calls outcome.filter)

end RecordQuery.Backend
