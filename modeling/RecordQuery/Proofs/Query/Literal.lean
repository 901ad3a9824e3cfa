import Mathlib.Data.List.Basic
import RecordQuery.Proofs.Query.Shape
import RecordQuery.Proofs.Time.Calendar

/-!
# Accepted literals

Text that is a literal consists of literal characters and has at most one point, so no range can be
taken for one. The period that a date names does not end before it starts.
-/

namespace RecordQuery.Literal

/-! ## Characters -/

/-- Literal characters, of which at most so many are points and the last is none. -/
structure Plain (points : Nat) (text : List Char) : Prop where
  chars : ∀ c ∈ text, isLiteralChar c = true
  points : text.count '.' ≤ points
  last : text.getLast? ≠ some '.'

namespace Plain

variable {points : Nat} {text rest : List Char}

theorem nil (points : Nat) : Plain points [] := ⟨by simp, by simp, by simp⟩

theorem mono {more : Nat} (h : Plain points text) (hle : points ≤ more) : Plain more text :=
  ⟨h.chars, Nat.le_trans h.points hle, h.last⟩

theorem cons {c : Char} (hc : isLiteralChar c = true) (hpoint : c ≠ '.') (h : Plain points text) :
    Plain points (c :: text) where
  chars := List.forall_mem_cons.mpr ⟨hc, h.chars⟩
  points := by rw [List.count_cons_of_ne hpoint]; exact h.points
  last := by
    cases text with
    | nil => simpa using hpoint
    | cons d text => rw [List.getLast?_cons_cons]; exact h.last

theorem point (hne : text ≠ []) (h : Plain points text) : Plain (points + 1) ('.' :: text) where
  chars := List.forall_mem_cons.mpr ⟨rfl, h.chars⟩
  points := by rw [List.count_cons_self]; exact Nat.succ_le_succ h.points
  last := by
    obtain ⟨c, text, rfl⟩ := List.exists_cons_of_ne_nil hne
    rw [List.getLast?_cons_cons]
    exact h.last

theorem isLiteralChar_of_isDigit {c : Char} (h : c.isDigit = true) : isLiteralChar c = true := by
  simp [isLiteralChar, h]

theorem digits_append {run : List Char} (hrun : ∀ c ∈ run, c.isDigit = true)
    (h : Plain points rest) : Plain points (run ++ rest) := by
  induction run with
  | nil => exact h
  | cons c run ih =>
      obtain ⟨hc, hrun⟩ := List.forall_mem_cons.mp hrun
      refine cons (isLiteralChar_of_isDigit hc) ?_ (ih hrun)
      rintro rfl
      simp [Char.isDigit] at hc

theorem of_digits? {count n : Nat} (hdigits : digits? count text = some (n, rest))
    (h : Plain points rest) : Plain points text := by
  unfold digits? at hdigits
  dsimp only at hdigits
  split at hdigits
  · next hrun =>
      obtain ⟨-, rfl⟩ : _ ∧ text.drop count = rest := by simpa using hdigits
      rw [Bool.and_eq_true, List.all_eq_true] at hrun
      rw [← List.take_append_drop count text]
      exact digits_append hrun.2 h
  · simp at hdigits

/-! ## Dates -/

theorem of_offset? {o : Offset} (ho : offset? text = some o) : Plain 0 text := by
  unfold offset? at ho
  split at ho
  · exact nil 0
  · exact (nil 0).cons (by decide) (by decide)
  · exact (nil 0).cons (by decide) (by decide)
  · next c rest hzone hzone' =>
      split at ho
      · next hsign =>
          have hsigned : Plain 0 rest → Plain 0 (c :: rest) := by
            simp only [Bool.or_eq_true, decide_eq_true_eq] at hsign
            intro h
            rcases hsign with rfl | rfl
            · exact h.cons (by decide) (by decide)
            · exact h.cons (by decide) (by decide)
          obtain ⟨⟨hours, after⟩, hhours, ho⟩ := Option.bind_eq_some_iff.mp ho
          refine hsigned (of_digits? hhours ?_)
          -- The minutes come with a colon in front or without.
          have hminutes : ∀ {rest : List Char},
              (digits? 2 rest).bind (fun found => if found.2.isEmpty then
                some (⟨c == '-', hours, found.1⟩ : Offset) else none) = some o → Plain 0 rest := by
            intro rest h
            obtain ⟨⟨minutes, after⟩, hdigits, h⟩ := Option.bind_eq_some_iff.mp h
            refine of_digits? hdigits ?_
            dsimp only at h
            split at h
            · next hempty =>
                rw [List.isEmpty_iff.mp hempty]
                exact nil 0
            · simp at h
          dsimp only at ho
          split at ho
          · exact nil 0
          · exact (hminutes ho).cons (by decide) (by decide)
          · exact hminutes ho
      · simp at ho

theorem of_fraction? {nano : Nat} (hfraction : fraction? text = some (nano, rest))
    (h : Plain 0 rest) : Plain 1 text := by
  unfold fraction? at hfraction
  split at hfraction
  · next run =>
      dsimp only at hfraction
      split at hfraction
      · next hlength =>
          obtain ⟨-, rfl⟩ : _ ∧ run.dropWhile Char.isDigit = rest := by simpa using hfraction
          have hne : run ≠ [] := by
            rintro rfl
            simp at hlength
          rw [← List.takeWhile_append_dropWhile (p := Char.isDigit) (l := run)] at hne ⊢
          exact (digits_append (List.all_eq_true.mp List.all_takeWhile) h).point hne
      · simp at hfraction
  · obtain ⟨-, rfl⟩ : _ ∧ text = rest := by simpa using hfraction
    exact h.mono (Nat.zero_le 1)

theorem of_seconds? {second nano : Nat} (hseconds : seconds? text = some (second, nano, rest))
    (h : Plain 0 rest) : Plain 1 text := by
  unfold seconds? at hseconds
  split at hseconds
  · next after =>
      obtain ⟨⟨s, after⟩, hdigits, hseconds⟩ := Option.bind_eq_some_iff.mp hseconds
      obtain ⟨⟨n, after⟩, hfraction, hseconds⟩ := Option.bind_eq_some_iff.mp hseconds
      obtain ⟨-, -, rfl⟩ : s = second ∧ n = nano ∧ after = rest := by simpa using hseconds
      exact (of_digits? hdigits (of_fraction? hfraction h)).cons (by decide) (by decide)
  · obtain ⟨-, -, rfl⟩ : 0 = second ∧ 0 = nano ∧ text = rest := by simpa using hseconds
    exact h.mono (Nat.zero_le 1)

theorem of_clock? {clock : Clock} {o : Offset} (h : clock? text = some (clock, o)) :
    Plain 1 text := by
  obtain ⟨⟨hour, rest⟩, hhour, h⟩ := Option.bind_eq_some_iff.mp h
  refine of_digits? hhour ?_
  dsimp only at h
  split at h
  · obtain ⟨⟨minute, rest⟩, hminute, h⟩ := Option.bind_eq_some_iff.mp h
    obtain ⟨⟨second, nano, rest⟩, hseconds, h⟩ := Option.bind_eq_some_iff.mp h
    obtain ⟨offset, hoffset, -⟩ := Option.bind_eq_some_iff.mp h
    exact (of_digits? hminute (of_seconds? hseconds (of_offset? hoffset))).cons (by decide)
      (by decide)
  · simp at h

theorem of_shape? {shape : Shape} (h : shape? text = some shape) : Plain 1 text := by
  obtain ⟨⟨year, rest⟩, hyear, h⟩ := Option.bind_eq_some_iff.mp h
  refine of_digits? hyear ?_
  dsimp only at h
  split at h
  · exact nil 1
  · obtain ⟨⟨month, rest⟩, hmonth, h⟩ := Option.bind_eq_some_iff.mp h
    refine (of_digits? hmonth ?_).cons (by decide) (by decide)
    dsimp only at h
    split at h
    · exact nil 1
    · obtain ⟨⟨day, rest⟩, hday, h⟩ := Option.bind_eq_some_iff.mp h
      refine (of_digits? hday ?_).cons (by decide) (by decide)
      dsimp only at h
      split at h
      · exact nil 1
      · next c rest =>
          split at h
          · next hletter =>
              obtain ⟨⟨clock, offset⟩, hclock, -⟩ := Option.bind_eq_some_iff.mp h
              simp only [Bool.or_eq_true, decide_eq_true_eq] at hletter
              rcases hletter with rfl | rfl
              · exact (of_clock? hclock).cons (by decide) (by decide)
              · exact (of_clock? hclock).cons (by decide) (by decide)
          · simp at h
    · simp at h
  · simp at h

/-! ## Numerals -/

theorem of_sign (h : Plain points (Numeral.sign text).2) : Plain points text := by
  unfold Numeral.sign at h
  split at h
  · exact h.cons (by decide) (by decide)
  · exact h.cons (by decide) (by decide)
  · exact h

theorem of_isNumeral (h : isNumeral text = true) : Plain 1 text := by
  unfold isNumeral at h
  refine of_sign ?_
  generalize (Numeral.sign text).2 = body at h ⊢
  simp only [Bool.and_eq_true, Bool.or_eq_true, Bool.not_eq_true', List.all_eq_true] at h
  obtain ⟨⟨-, hwhole⟩, hfraction⟩ := h
  rw [← List.takeWhile_append_dropWhile (p := (· != '.')) (l := body)]
  refine digits_append hwhole ?_
  have hpoint := List.head?_dropWhile_not (· != '.') body
  cases hrest : body.dropWhile (· != '.') with
  | nil => exact nil 1
  | cons c rest =>
      obtain rfl : c = '.' := by simpa [hrest] using hpoint
      have hmem : '.' ∈ body :=
        (List.dropWhile_suffix (· != '.')).subset (hrest ▸ List.mem_cons_self ..)
      have hdigits : rest ≠ [] ∧ ∀ d ∈ rest, d.isDigit = true := by
        simpa [hrest, hmem] using hfraction
      have hrun := digits_append hdigits.2 (nil 0)
      rw [List.append_nil] at hrun
      exact hrun.point hdigits.1

end Plain

/-! ## Accepted text -/

/-- Text that is told to be a literal, whether it names a value or not. -/
theorem plain_of_classify {text : List Char} (h : classify text ≠ .neither) :
    Plain 1 text ∧ text ≠ [] := by
  refine ⟨?_, ?_⟩
  · unfold classify at h
    split at h
    · next shape hshape => exact .of_shape? hshape
    · split at h
      · next hnumeral => exact .of_isNumeral hnumeral
      · exact absurd rfl h
  · rintro rfl
    exact h rfl

/-- There are no two points in a row in a literal. -/
theorem splitRange?_of_classify {text : List Char} (h : classify text ≠ .neither) :
    Match.splitRange? text = none := by
  cases hsplit : Match.splitRange? text with
  | none => rfl
  | some parts =>
      obtain ⟨low, high⟩ := parts
      have hpoints := (plain_of_classify h).1.points
      rw [Match.eq_append_of_splitRange? hsplit, List.count_append, List.count_cons_self,
        List.count_cons_self] at hpoints
      omega

theorem isFinite_of_classify {text : List Char} {x : Number}
    (h : classify text = .valid (.number x)) : x.isFinite = true := by
  unfold classify at h
  split at h
  · split at h <;> simp at h
  · split at h
    · split at h
      · split at h
        · next hfinite =>
            obtain rfl : _ = x := by simpa using h
            exact hfinite
        · simp at h
      · simp at h
    · simp at h

theorem period?_of_classify {text : List Char} {p : Period}
    (h : classify text = .valid (.period p)) :
    ∃ shape, shape? text = some shape ∧ shape.period? = some p := by
  unfold classify at h
  split at h
  · next shape hshape =>
      split at h
      · next hperiod =>
          obtain rfl : _ = p := by simpa using h
          exact ⟨shape, hshape, hperiod⟩
      · simp at h
  · split at h
    · split at h
      · split at h <;> simp at h
      · simp at h
    · simp at h

/-! ## Periods -/

theorem place_span_le {first next : Date} (h : first.dayNumber < next.dayNumber) :
    (span first next).first.place ≤ (span first next).last.place := by
  simp only [span, Instant.midnight, Instant.beforeMidnight, Instant.place]
  omega

/-- **Periods have an order.** A period does not end before it starts, and one with a time of day is
a single instant. -/
theorem Shape.place_le_of_period? (shape : Shape) {p : Period} (h : shape.period? = some p) :
    p.first.place ≤ p.last.place ∧ (p.timed = true → p.last = p.first) := by
  cases shape with
  | year y =>
      obtain ⟨first, hfirst, h⟩ := Option.bind_eq_some_iff.mp h
      obtain ⟨next, hnext, h⟩ := Option.bind_eq_some_iff.mp h
      obtain rfl : span first next = p := by simpa using h
      exact ⟨place_span_le (Date.dayNumber_lt_next_year hfirst hnext), by simp [span]⟩
  | month y m =>
      obtain ⟨first, hfirst, h⟩ := Option.bind_eq_some_iff.mp h
      dsimp only at h
      split at h
      · obtain ⟨next, hnext, h⟩ := Option.bind_eq_some_iff.mp h
        obtain rfl : span first next = p := by simpa using h
        exact ⟨place_span_le (Date.dayNumber_lt_next_year hfirst hnext), by simp [span]⟩
      · obtain ⟨next, hnext, h⟩ := Option.bind_eq_some_iff.mp h
        obtain rfl : span first next = p := by simpa using h
        exact ⟨place_span_le (Date.dayNumber_lt_next_month hfirst hnext), by simp [span]⟩
  | day y m d =>
      obtain ⟨date, hdate, h⟩ := Option.bind_eq_some_iff.mp h
      obtain rfl : span date (dayAfter date) = p := by simpa using h
      refine ⟨place_span_le ?_, by simp [span]⟩
      rw [dayAfter, Date.dayNumber_ofDayNumber]
      exact Int.lt_succ _
  | time y m d clock offset =>
      obtain ⟨date, hdate, h⟩ := Option.bind_eq_some_iff.mp h
      obtain ⟨seconds, hseconds, h⟩ := Option.bind_eq_some_iff.mp h
      obtain ⟨x, hx, h⟩ := Option.bind_eq_some_iff.mp h
      obtain rfl : (⟨x, x, true⟩ : Period) = p := by simpa using h
      exact ⟨Int.le_refl _, fun _ => rfl⟩

/-- A number that compares, or a period whose ends are in order. -/
def IsSound : Literal → Prop
  | number x => x.place?.isSome = true
  | period p => p.first.place ≤ p.last.place ∧ (p.timed = true → p.last = p.first)

theorem isSound_of_classify {text : List Char} {l : Literal} (h : classify text = .valid l) :
    l.IsSound := by
  cases l with
  | number x =>
      have hfinite := isFinite_of_classify h
      cases x with
      | nan => simp [Number.isFinite] at hfinite
      | real negative a => cases negative <;> rfl
  | period p =>
      obtain ⟨shape, -, hperiod⟩ := period?_of_classify h
      exact shape.place_le_of_period? hperiod

end RecordQuery.Literal
