import Mathlib.Logic.Function.Iterate
import RecordQuery.Proofs.Query.Balance

/-!
# Cleanup in a group

The tokens of a query between the start and the end of a group. Cleanup goes the same way inside the
group as in the query alone, but for joiners at the two ends, which the signs of the group make loose.
-/

namespace RecordQuery

namespace Token.Kind

variable {k : Kind}

theorem isNegation_of_isJoiner (h : k.isJoiner = true) : k.isNegation = false := by
  cases k <;> simp_all [isJoiner, isNegation]

theorem isNegation_of_isOpenGroup (h : k.isOpenGroup = true) : k.isNegation = false := by
  cases k <;> simp_all [isOpenGroup, isNegation]

theorem isJoiner_of_isOpenGroup (h : k.isOpenGroup = true) : k.isJoiner = false := by
  cases k <;> simp_all [isOpenGroup, isJoiner]

theorem isJoiner_of_isCloseGroup (h : k.isCloseGroup = true) : k.isJoiner = false := by
  cases k <;> simp_all [isCloseGroup, isJoiner]

theorem isOpenGroup_of_isCloseGroup (h : k.isCloseGroup = true) : k.isOpenGroup = false := by
  cases k <;> simp_all [isCloseGroup, isOpenGroup]

theorem isNegation_of_isCloseGroup (h : k.isCloseGroup = true) : k.isNegation = false := by
  cases k <;> simp_all [isCloseGroup, isNegation]

theorem isCloseGroup_of_isOpenGroup (h : k.isOpenGroup = true) : k.isCloseGroup = false := by
  cases k <;> simp_all [isOpenGroup, isCloseGroup]

theorem isCloseGroup_of_isJoiner (h : k.isJoiner = true) : k.isCloseGroup = false := by
  cases k <;> simp_all [isJoiner, isCloseGroup]

end Token.Kind

namespace Cleanup

/-- All of these tokens are joiners. -/
def Joiners (tokens : List Token) : Prop := ∀ t ∈ tokens, t.kind.isJoiner = true

theorem Joiners.append {first second : List Token} (hfirst : Joiners first)
    (hsecond : Joiners second) : Joiners (first ++ second) :=
  fun t ht => (List.mem_append.mp ht).elim (hfirst t) (hsecond t)

theorem Joiners.reverse {tokens : List Token} (h : Joiners tokens) : Joiners tokens.reverse :=
  fun t ht => h t (List.mem_reverse.mp ht)

/-- The tokens of a query and those of the query as a group, which may differ in joiners at the two
ends. -/
def GroupOf (start finish : Token) (tokens group : List Token) : Prop :=
  ∃ lead inside trail trail', Joiners lead ∧ Joiners trail ∧ Joiners trail' ∧
    tokens = lead ++ (inside ++ trail) ∧ group = start :: (inside ++ (trail' ++ [finish]))

/-! ## One pass -/

/-- Joiners are taken out or kept, and nothing else is done about them. -/
theorem passFrom_joiners {joiners : List Token} (h : Joiners joiners) (kept rest : List Token) :
    ∃ stay, Joiners stay ∧ passFrom kept (joiners ++ rest) = passFrom (stay ++ kept) rest := by
  induction joiners generalizing kept with
  | nil => exact ⟨[], by simp [Joiners], rfl⟩
  | cons t joiners ih =>
      obtain ⟨ht, hjoiners⟩ := List.forall_mem_cons.mp h
      have hempty := startsEmpty_of_isJoiner ht (joiners ++ rest)
      cases hloose : isLoose kept t (joiners ++ rest) with
      | true =>
          rw [List.cons_append, passFrom_isLoose hloose]
          exact ih hjoiners kept
      | false =>
          obtain ⟨stay, hstay, heq⟩ := ih hjoiners (t :: kept)
          refine ⟨stay ++ [t], hstay.append (by simpa [Joiners] using ht), ?_⟩
          rw [List.cons_append, passFrom_kept hempty hloose, heq]
          simp

theorem isLoose_congr {kept kept' rest rest' : List Token} (t : Token)
    (hkept : blocksJoiner kept = blocksJoiner kept') (hrest : rest.head? = rest'.head?) :
    isLoose kept t rest = isLoose kept' t rest' := by
  rw [isLoose, isLoose, hkept, hrest]

/-- How far two passes have come that go over the same tokens, one in the query and one in the group:
both keep the same tokens, after joiners in the one and after the start of the group in the other,
and the same tokens are left, which end all groups that are open in the query. -/
structure Progress where
  kept : List Token
  lead : List Token
  inside : List Token
  depth : Nat
  joiners : Joiners lead
  balanced : Token.depth? depth inside = some 0

namespace Progress

/-- The pass over the query from here on, with these tokens after it. -/
def query (s : Progress) (trail : List Token) : List Token :=
  passFrom (s.kept ++ s.lead) (s.inside ++ trail)

/-- The pass over the group from here on. -/
def group (s : Progress) (start : Token) (trail : List Token) : List Token :=
  passFrom (s.kept ++ [start]) (s.inside ++ trail)

/-- Both passes come from `s` to `s'`. -/
def Leads (start : Token) (s s' : Progress) : Prop :=
  s'.inside.length < s.inside.length ∧ (∀ trail, s.query trail = s'.query trail) ∧
    ∀ trail, s.group start trail = s'.group start trail

variable {start : Token} {kept lead : List Token} {t : Token} {rest : List Token} {depth : Nat}

/-- A joiner is loose in both or in none, but for one before all that is kept, which is loose in the
group. -/
theorem exists_leads_joiner (hstart : start.kind.isOpenGroup = true) (hlead : Joiners lead)
    (hbalanced : Token.depth? depth (t :: rest) = some 0) (ht : t.kind.isJoiner = true)
    (hrest : rest ≠ []) :
    ∃ s', Leads start ⟨kept, lead, t :: rest, depth, hlead, hbalanced⟩ s' := by
  have hhead : ∀ trail, (rest ++ trail).head? = rest.head? :=
    fun trail => List.head?_append_of_ne_nil _ hrest
  have hempty := startsEmpty_of_isJoiner ht
  have hafter := hbalanced
  rw [Token.depth?_cons_of_isJoiner ht] at hafter
  cases kept with
  | nil =>
      have hgroup : ∀ trail, isLoose [start] t (rest ++ trail) = true := by
        simp [isLoose, ht, blocksJoiner, hstart]
      have hquery : ∀ trail, isLoose lead t (rest ++ trail) = isLoose lead t rest :=
        fun trail => isLoose_congr t rfl (hhead trail)
      cases hloose : isLoose lead t rest with
      | true =>
          refine ⟨⟨[], lead, rest, depth, hlead, hafter⟩, Nat.lt_succ_self _, ?_, ?_⟩
          · exact fun trail => passFrom_isLoose ((hquery trail).trans hloose)
          · exact fun trail => passFrom_isLoose (hgroup trail)
      | false =>
          have hlead' : Joiners (t :: lead) := List.forall_mem_cons.mpr ⟨ht, hlead⟩
          refine ⟨⟨[], t :: lead, rest, depth, hlead', hafter⟩, Nat.lt_succ_self _, ?_, ?_⟩
          · exact fun trail => passFrom_kept (hempty _) ((hquery trail).trans hloose)
          · exact fun trail => passFrom_isLoose (hgroup trail)
  | cons p kept =>
      have hsame : ∀ base trail, isLoose (p :: kept ++ base) t (rest ++ trail) =
          isLoose (p :: kept) t rest := fun base trail => isLoose_congr t rfl (hhead trail)
      cases hloose : isLoose (p :: kept) t rest with
      | true =>
          refine ⟨⟨p :: kept, lead, rest, depth, hlead, hafter⟩, Nat.lt_succ_self _, ?_, ?_⟩
          · exact fun trail => passFrom_isLoose ((hsame _ trail).trans hloose)
          · exact fun trail => passFrom_isLoose ((hsame _ trail).trans hloose)
      | false =>
          refine ⟨⟨t :: p :: kept, lead, rest, depth, hlead, hafter⟩, Nat.lt_succ_self _, ?_, ?_⟩
          · exact fun trail => passFrom_kept (hempty _) ((hsame _ trail).trans hloose)
          · exact fun trail => passFrom_kept (hempty _) ((hsame _ trail).trans hloose)

/-- The last of balanced tokens starts no group. -/
theorem startsEmpty_append (hbalanced : Token.depth? depth (t :: rest) = some 0)
    (hempty : startsEmpty t rest = false) (trail : List Token) :
    startsEmpty t (rest ++ trail) = false := by
  cases rest with
  | nil =>
      obtain ⟨kind, position⟩ := t
      cases kind with
      | openGroup n => simp [Token.depth?, Token.depthAfter?] at hbalanced
      | term _ | closeGroup | joiner _ | negation => rfl
  | cons u rest => exact hempty

/-- Any other token is kept in both, or starts a group that is empty in both. -/
theorem exists_leads_other (hstart : start.kind.isOpenGroup = true) (hlead : Joiners lead)
    (hbalanced : Token.depth? depth (t :: rest) = some 0) (ht : t.kind.isJoiner = false) :
    ∃ s', Leads start ⟨kept, lead, t :: rest, depth, hlead, hbalanced⟩ s' := by
  cases hempty : startsEmpty t rest with
  | true =>
      cases rest with
      | nil => simp [startsEmpty] at hempty
      | cons u rest =>
          have hafter := hbalanced
          rw [Token.depth?_of_startsEmpty hempty] at hafter
          have hstart' : ∀ p ∈ [start].head?, p.kind.isNegation = false := by
            simpa using Token.Kind.isNegation_of_isOpenGroup hstart
          have hlead' : ∀ p ∈ lead.head?, p.kind.isNegation = false :=
            fun p hp => Token.Kind.isNegation_of_isJoiner (hlead p (List.mem_of_head? hp))
          refine ⟨⟨dropNegation kept, lead, rest, depth, hlead, hafter⟩,
            Nat.lt_add_of_pos_right Nat.two_pos, ?_, ?_⟩
          · intro trail
            rw [query, query, ← dropNegation_append hlead']
            exact passFrom_startsEmpty _ hempty
          · intro trail
            rw [group, group, ← dropNegation_append hstart']
            exact passFrom_startsEmpty _ hempty
  | false =>
      have hempty' := startsEmpty_append hbalanced hempty
      have hloose : ∀ kept rest, isLoose kept t rest = false := by simp [isLoose, ht]
      have hdepth := hbalanced
      rw [Token.depth?_cons] at hdepth
      obtain ⟨after, -, hafter⟩ := Option.bind_eq_some_iff.mp hdepth
      refine ⟨⟨t :: kept, lead, rest, after, hlead, hafter⟩, Nat.lt_succ_self _, ?_, ?_⟩
      · exact fun trail => passFrom_kept (hempty' trail) (hloose _ _)
      · exact fun trail => passFrom_kept (hempty' trail) (hloose _ _)

theorem exists_leads (hstart : start.kind.isOpenGroup = true) (s : Progress)
    (hs : ¬ Joiners s.inside) : ∃ s', Leads start s s' := by
  obtain ⟨kept, lead, inside, depth, hlead, hbalanced⟩ := s
  cases inside with
  | nil => exact absurd (by simp [Joiners]) hs
  | cons t rest =>
      cases ht : t.kind.isJoiner with
      | true =>
          refine exists_leads_joiner hstart hlead hbalanced ht ?_
          rintro rfl
          exact hs (by simpa [Joiners] using ht)
      | false => exact exists_leads_other hstart hlead hbalanced ht

end Progress

theorem passFrom_finish {finish : Token} (hfinish : finish.kind.isCloseGroup = true)
    (kept : List Token) : passFrom kept [finish] = kept.reverse ++ [finish] := by
  have hempty : startsEmpty finish [] = false := by simp [startsEmpty]
  have hloose : isLoose kept finish [] = false := by
    obtain ⟨kind, position⟩ := finish
    cases kind with
    | closeGroup => rfl
    | term _ | openGroup _ | joiner _ | negation => cases hfinish
  rw [passFrom_kept hempty hloose, passFrom, List.reverse_cons]

section
variable {start finish : Token} {trail trail' : List Token}

/-- Where only joiners are left, they make up the end of the query. -/
theorem groupOf_joiners (hfinish : finish.kind.isCloseGroup = true) (s : Progress)
    (hs : Joiners s.inside) (htrail : Joiners trail) (htrail' : Joiners trail') :
    GroupOf start finish (s.query trail) (s.group start (trail' ++ [finish])) := by
  obtain ⟨stay, hstay, heq⟩ := passFrom_joiners (hs.append htrail) (s.kept ++ s.lead) []
  obtain ⟨stay', hstay', heq'⟩ :=
    passFrom_joiners (hs.append htrail') (s.kept ++ [start]) [finish]
  refine ⟨s.lead.reverse, s.kept.reverse, stay.reverse, stay'.reverse, s.joiners.reverse,
    hstay.reverse, hstay'.reverse, ?_, ?_⟩
  · rw [List.append_nil] at heq
    rw [Progress.query, heq]
    simp [passFrom]
  · rw [List.append_assoc] at heq'
    rw [Progress.group, heq', passFrom_finish hfinish]
    simp

/-- **A pass in a group.** It keeps what a pass over the query keeps, but for joiners at the ends. -/
theorem groupOf_progress (hstart : start.kind.isOpenGroup = true)
    (hfinish : finish.kind.isCloseGroup = true) (htrail : Joiners trail) (htrail' : Joiners trail')
    (s : Progress) : GroupOf start finish (s.query trail) (s.group start (trail' ++ [finish])) := by
  -- Each step leaves fewer tokens inside, until only joiners are left there.
  induction hn : s.inside.length using Nat.strongRecOn generalizing s with
  | ind n ih =>
      subst hn
      by_cases hs : Joiners s.inside
      · exact groupOf_joiners hfinish s hs htrail htrail'
      · obtain ⟨s', hlt, hquery, hgroup⟩ := s.exists_leads hstart hs
        rw [hquery, hgroup]
        exact ih _ hlt s' rfl

theorem depth?_joiners {joiners : List Token} (h : Joiners joiners) (depth : Nat)
    (rest : List Token) : Token.depth? depth (joiners ++ rest) = Token.depth? depth rest := by
  induction joiners with
  | nil => rfl
  | cons t joiners ih =>
      obtain ⟨ht, hjoiners⟩ := List.forall_mem_cons.mp h
      rw [List.cons_append, Token.depth?_cons_of_isJoiner ht, ih hjoiners]

/-- The tokens that the query and the group have in common are balanced. -/
theorem depth?_inside {lead inside : List Token} (hlead : Joiners lead) (htrail : Joiners trail)
    (h : Token.Balanced (lead ++ (inside ++ trail))) : Token.Balanced inside := by
  rw [Token.Balanced, depth?_joiners hlead, Token.depth?_append] at h
  obtain ⟨depth, hinside, hend⟩ := Option.bind_eq_some_iff.mp h
  have htrail := depth?_joiners htrail depth []
  rw [List.append_nil, hend] at htrail
  obtain rfl : 0 = depth := Option.some.inj htrail
  exact hinside

theorem mem_inside {lead inside : List Token} (hlead : Joiners lead) (htrail : Joiners trail)
    {t : Token} (ht : t.kind.isTerm = true) (hmem : t ∈ lead ++ (inside ++ trail)) : t ∈ inside := by
  have hnot : ∀ {joiners : List Token}, Joiners joiners → t ∉ joiners := by
    intro joiners hjoiners hin
    have hno := Token.Kind.isTerm_of_isJoiner (hjoiners t hin)
    rw [ht] at hno
    cases hno
  rcases List.mem_append.mp hmem with hin | hmem
  · exact absurd hin (hnot hlead)
  · rcases List.mem_append.mp hmem with hin | hin
    · exact hin
    · exact absurd hin (hnot htrail)

/-- Balanced tokens do not start with the end of a group. -/
theorem startsEmpty_of_balanced {inside : List Token} (h : Token.Balanced inside)
    (hne : inside ≠ []) (start : Token) (rest : List Token) :
    startsEmpty start (inside ++ rest) = false := by
  cases inside with
  | nil => exact absurd rfl hne
  | cons t inside =>
      obtain ⟨kind, position⟩ := t
      cases kind with
      | closeGroup => simp [Token.Balanced, Token.depth?, Token.depthAfter?] at h
      | term _ | openGroup _ | joiner _ | negation => simp [startsEmpty, Token.Kind.isCloseGroup]

/-- A query with a term is not an empty group. -/
theorem GroupOf.ne_empty {tokens group : List Token} (h : GroupOf start finish tokens group)
    (hterm : ∃ t ∈ tokens, t.kind.isTerm = true) : group ≠ [start, finish] := by
  obtain ⟨lead, inside, trail, trail', hlead, htrail, htrail', rfl, rfl⟩ := h
  obtain ⟨t, hmem, ht⟩ := hterm
  have hpos := List.length_pos_of_mem (mem_inside hlead htrail ht hmem)
  intro hempty
  have hlength := congrArg List.length hempty
  simp only [List.length_cons, List.length_append, List.length_nil] at hlength
  omega

/-- No group but the empty one ends right after it starts. -/
theorem GroupOf.startsEmpty_eq_false {tokens inside : List Token}
    (h : GroupOf start finish tokens (start :: inside)) (hbalanced : Token.Balanced tokens)
    (hne : start :: inside ≠ [start, finish]) (rest : List Token) :
    startsEmpty start (inside ++ rest) = false := by
  obtain ⟨lead, middle, trail, trail', hlead, htrail, htrail', rfl, hgroup⟩ := h
  obtain ⟨-, rfl⟩ := List.cons_eq_cons.mp hgroup
  have hmiddle := depth?_inside hlead htrail hbalanced
  cases middle with
  | cons t middle =>
      rw [List.append_assoc]
      exact startsEmpty_of_balanced hmiddle (by simp) start _
  | nil =>
      cases trail' with
      | nil => simp at hne
      | cons t trail' =>
          obtain ⟨j, p, rfl⟩ := Token.exists_eq_joiner (htrail' t (List.mem_cons_self ..))
          simp [startsEmpty, Token.Kind.isCloseGroup]

/-- One pass over both leaves a query and its group, unless the group is empty. -/
theorem GroupOf.pass {tokens group : List Token} (hstart : start.kind.isOpenGroup = true)
    (hfinish : finish.kind.isCloseGroup = true) (h : GroupOf start finish tokens group)
    (hbalanced : Token.Balanced tokens) (hne : group ≠ [start, finish]) :
    GroupOf start finish (pass tokens) (pass group) := by
  have hparts := h
  obtain ⟨lead, inside, trail, trail', hlead, htrail, htrail', rfl, rfl⟩ := hparts
  have hinside := depth?_inside hlead htrail hbalanced
  obtain ⟨stay, hstay, hquery⟩ := passFrom_joiners hlead [] (inside ++ trail)
  rw [List.append_nil] at hquery
  have hgroup : Cleanup.pass (start :: (inside ++ (trail' ++ [finish]))) =
      passFrom [start] (inside ++ (trail' ++ [finish])) := by
    have hempty := h.startsEmpty_eq_false hbalanced hne []
    rw [List.append_nil] at hempty
    refine passFrom_kept hempty ?_
    simp [isLoose, Token.Kind.isJoiner_of_isOpenGroup hstart]
  have hprogress := groupOf_progress hstart hfinish htrail htrail' ⟨[], stay, inside, 0, hstay, hinside⟩
  rw [Cleanup.pass, hquery, hgroup]
  exact hprogress

end

end Cleanup

/-! ## All passes -/

theorem cleanup_eq_iterate {tokens : List Token} {n : Nat} (h : tokens.length ≤ n) :
    cleanup tokens = Cleanup.pass^[n] tokens := by
  induction n generalizing tokens with
  | zero =>
      obtain rfl := List.length_eq_zero_iff.mp (Nat.le_zero.mp h)
      simp [cleanup, Cleanup.pass, Cleanup.passFrom]
  | succ n ih =>
      rw [cleanup, Function.iterate_succ_apply]
      split
      · next hlt => exact ih (by omega)
      · next hnot =>
          have hfixed : Cleanup.pass tokens = tokens :=
            (Cleanup.passFrom_sublist [] tokens).eq_of_length_le (Nat.le_of_not_lt hnot)
          rw [hfixed, Function.iterate_fixed hfixed]

namespace Cleanup

variable {start finish : Token} {tokens group : List Token}

theorem GroupOf.iterate_pass (hstart : start.kind.isOpenGroup = true)
    (hfinish : finish.kind.isCloseGroup = true) (h : GroupOf start finish tokens group)
    (hbalanced : Token.Balanced tokens) (hterm : ∃ t ∈ tokens, t.kind.isTerm = true) (n : Nat) :
    GroupOf start finish (Cleanup.pass^[n] tokens) (Cleanup.pass^[n] group) := by
  induction n generalizing tokens group with
  | zero => exact h
  | succ n ih =>
      have hbalanced' : Token.Balanced (Cleanup.pass tokens) :=
        (depth?_passFrom 0 [] tokens).trans hbalanced
      have hterm' : ∃ t ∈ Cleanup.pass tokens, t.kind.isTerm = true := by
        obtain ⟨t, hmem, ht⟩ := hterm
        have hfilter : t ∈ (Cleanup.pass tokens).filter (·.kind.isTerm) := by
          rw [Cleanup.pass, filter_isTerm_passFrom]
          exact List.mem_filter.mpr ⟨hmem, ht⟩
        exact ⟨t, List.mem_filter.mp hfilter⟩
      rw [Function.iterate_succ_apply, Function.iterate_succ_apply]
      exact ih (h.pass hstart hfinish hbalanced (h.ne_empty hterm)) hbalanced' hterm'

/-- **Cleanup in a group.** It leaves in the group what it leaves of the query, but for joiners at the
ends. -/
theorem GroupOf.cleanup (hstart : start.kind.isOpenGroup = true)
    (hfinish : finish.kind.isCloseGroup = true) (h : GroupOf start finish tokens group)
    (hbalanced : Token.Balanced tokens) (hterm : ∃ t ∈ tokens, t.kind.isTerm = true) :
    GroupOf start finish (cleanup tokens) (cleanup group) := by
  -- The two may come to rest after different numbers of passes, so both are run for as many.
  rw [cleanup_eq_iterate (Nat.le_max_left tokens.length group.length),
    cleanup_eq_iterate (Nat.le_max_right tokens.length group.length)]
  exact h.iterate_pass hstart hfinish hbalanced hterm _

end Cleanup

end RecordQuery
