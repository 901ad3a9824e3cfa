import RecordQuery.Proofs.Query.ByteReader

/-!
# Shapes of dates by places

The shape of a date is read by places without a fault, as it is read from the front. What carries this from
field to field is that the place lies in the bytes and that the text is spelled from it on: each field that is
found leads to the next such place, and the end of the text is where its place is the length of the bytes.
-/

namespace RecordQuery.ByteReader

open Text

variable {all : List UInt8} {place start count : Nat} {text : List Char}

/-! ## Digits -/

theorem appendDigit_of_isDigit {n : Nat} {c : Char} (hn : n < 10 ^ 8) (hc : c.isDigit = true) :
    appendDigit n c.toUInt8 = .ok (10 * n + (c.toNat - 48)) := by
  have hrange := Numeral.toNat_of_isDigit hc
  have hten : n * 10 < 2 ^ 32 := by omega
  have hsum : n * 10 + (c.toNat - 48) < 2 ^ 32 := by omega
  rw [appendDigit, u32_of_lt hten, toNat_toUInt8 (isAscii_of_isDigit hc), minus_of_le hrange.1,
    Nat.mul_comm 10]
  exact u32_of_lt hsum

/-- Up to nine digits are read without a fault: behind `k` digits the value has no more than `k`. -/
theorem foldlM_appendDigit {run : List Char} {n k : Nat} (hrun : ∀ c ∈ run, c.isDigit = true)
    (hn : n < 10 ^ k) (hwidth : k + run.length ≤ 9) :
    (bytes run).foldlM appendDigit n = .ok (run.foldl (fun n c => 10 * n + (c.toNat - 48)) n) := by
  induction run generalizing n k with
  | nil => rfl
  | cons c run ih =>
      obtain ⟨hc, hrun⟩ := List.forall_mem_cons.mp hrun
      rw [List.length_cons] at hwidth
      have hsmall : n < 10 ^ 8 := Nat.lt_of_lt_of_le hn (Nat.pow_le_pow_right (by decide) (by omega))
      have hrange := Numeral.toNat_of_isDigit hc
      have hnext : 10 * n + (c.toNat - 48) < 10 ^ (k + 1) := by
        rw [Nat.pow_succ]
        omega
      rw [bytes_cons_of_isAscii (isAscii_of_isDigit hc), List.foldlM_cons,
        appendDigit_of_isDigit hsmall hc]
      exact ih hrun hnext (by omega)

theorem valueOf_bytes {run : List Char} (hrun : ∀ c ∈ run, c.isDigit = true) (hwidth : run.length ≤ 9) :
    valueOf (bytes run) = .ok (Numeral.natOfDigits run) :=
  foldlM_appendDigit (k := 0) hrun (by decide) (by omega)

/-- Ten digits may name more than an integer can hold. -/
example : valueOf (bytes "4294967296".toList) = .error .overflow := by decide +kernel

theorem digits?_eq_ite (count : Nat) (text : List Char) :
    Literal.digits? count text =
      if count ≤ text.length ∧ (text.take count).all Char.isDigit = true then
        some (Numeral.natOfDigits (text.take count), text.drop count) else none := by
  simp only [Literal.digits?, Bool.and_eq_true, decide_eq_true_eq, List.length_take,
    min_eq_left_iff]

/-- Digits are found with a bound by their count, and the place behind them is one of the text. -/
theorem reads_digits (h : Spells all start text) (hcount : count ≤ 9) :
    Reads (fun n found => n = found.1 ∧ n < 10 ^ count ∧ Spells all (start + count) found.2)
      (digits all start count) (Literal.digits? count text) := by
  have hguard : start + count ≤ all.length ∧ ((all.drop start).take count).all isDigitByte = true ↔
      count ≤ text.length ∧ (text.take count).all Char.isDigit = true := by
    have hlength : start + count ≤ all.length ↔ count ≤ (all.drop start).length := by
      have hle := h.le
      rw [List.length_drop]
      omega
    rw [hlength, h.drop_eq]
    exact take_digits_iff count text
  refine .lift (require_of hcount _) ?_
  rw [digits?_eq_ite]
  split
  · next hrun =>
      have hdigits := List.all_eq_true.mp hrun.2
      have hascii : ∀ c ∈ text.take count, isAscii c = true :=
        fun c hc => isAscii_of_isDigit (hdigits c hc)
      have hwidth : (text.take count).length = count := List.length_take_of_le hrun.1
      have hvalue := valueOf_bytes hdigits (by omega)
      have hlt := Numeral.natOfDigits_lt hdigits
      rw [hwidth] at hlt
      refine .of_guard (hguard.mpr hrun) ?_
      rw [h.drop_eq, take_bytes hrun.1 hascii, hvalue]
      exact .pure ⟨rfl, hlt, h.drop hrun.1 hascii⟩
  · next hrun => exact .of_not_guard (mt hguard.mp hrun)

/-! ## Offsets -/

/-- The offset whose last two digits are its minutes. -/
def lastMinutes? (west : Bool) (hours : Nat) (text : List Char) : Option Literal.Offset := do
  let (minutes, rest) ← Literal.digits? 2 text
  if rest.isEmpty then some ⟨west, hours, minutes⟩ else none

/-- The offset from what stands behind its hours. -/
def behindHours? (west : Bool) (hours : Nat) : List Char → Option Literal.Offset
  | [] => some ⟨west, hours, 0⟩
  | ':' :: rest | rest => lastMinutes? west hours rest

variable {west : Bool} {hours : Nat}

theorem reads_lastMinutes (h : Spells all place text) (hlength : all.length = place + 2) :
    Reads (fun n found => ⟨west, hours, n⟩ = found) (digits all place 2)
      (lastMinutes? west hours text) := by
  rw [← bind_pure (digits all place 2)]
  refine (reads_digits h (by decide)).bind ?_
  rintro n ⟨_, rest⟩ ⟨rfl, -, hrest⟩ -
  obtain rfl := hrest.length_eq_iff.mp hlength
  exact .pure rfl

theorem lastMinutes?_eq_none (h : Spells all place text) (hlength : all.length ≠ place + 2) :
    lastMinutes? west hours text = none := by
  have hdigits := reads_digits h (show 2 ≤ 9 by decide)
  unfold lastMinutes?
  cases hfound : Literal.digits? 2 text with
  | none => rfl
  | some found =>
      rw [hfound] at hdigits
      obtain ⟨n, -, -, hrest⟩ := hdigits.exists_of_some
      have hne := mt hrest.length_eq_iff.mpr hlength
      simp [hne]

theorem reads_behindHours (h : Spells all 3 text) (west : Bool) (hours : Nat) :
    Reads (fun n found => ⟨west, hours, n⟩ = found) (behindHours all)
      (behindHours? west hours text) := by
  unfold behindHours?
  split
  · rw [behindHours, if_pos (h.length_eq_iff.mpr rfl)]
    exact .pure rfl
  · next rest =>
      have hrest : Spells all 4 rest := h.next (by decide)
      have hthree : all.length ≠ 3 := mt h.length_eq_iff.mp (List.cons_ne_nil _ _)
      by_cases hsix : all.length = 6
      · have hcolon := byteAt_of_getElem? ((h.getElem?_eq_iff (d := ':') (by decide)).mpr ⟨rest, rfl⟩)
        rw [behindHours, if_neg hthree, if_neg (by omega), if_pos hsix]
        exact .lift hcolon (.of_guard rfl (reads_lastMinutes hrest hsix))
      · have hnone : Literal.digits? 2 (':' :: rest) = none := by simp [digits?_eq_ite]
        have hdigits := reads_digits h (show 2 ≤ 9 by decide)
        rw [hnone] at hdigits
        rw [lastMinutes?_eq_none hrest hsix, behindHours, if_neg hthree, if_neg hsix]
        split
        · exact hdigits.of_none
        · exact .failure
  · next hnil hcolon =>
      have hthree : all.length ≠ 3 := mt h.length_eq_iff.mp hnil
      by_cases hfive : all.length = 5
      · rw [behindHours, if_neg hthree, if_pos hfive]
        exact reads_lastMinutes h hfive
      · rw [lastMinutes?_eq_none h hfive, behindHours, if_neg hthree, if_neg hfive]
        split
        · next hsix =>
            have hlt : 3 < all.length := by omega
            refine .lift (byteAt_of_getElem? (List.getElem?_eq_getElem hlt)) (.of_not_guard ?_)
            have hne := h.getElem?_ne (by decide) hcolon
            rw [List.getElem?_eq_getElem hlt] at hne
            exact fun hbyte => hne (congrArg some hbyte)
        · exact .failure

theorem reads_behindSign (h : Spells all 1 text) (west : Bool) :
    Reads Eq (behindSign all west)
      (do let (hours, rest) ← Literal.digits? 2 text
          behindHours? west hours rest) := by
  refine (reads_digits h (by decide)).bind ?_
  rintro hours ⟨_, rest⟩ ⟨rfl, -, hrest⟩ -
  exact (reads_behindHours hrest west hours).map fun n found hfound => hfound

theorem reads_offset (text : List Char) : Reads Eq (offset (bytes text)) (Literal.offset? text) := by
  unfold Literal.offset?
  split
  · exact .pure rfl
  · exact .pure rfl
  · exact .pure rfl
  · next c rest hcapital hsmall =>
      have h := Spells.start (c :: rest)
      have hne : (bytes (c :: rest)).length ≠ 0 := mt h.length_eq_iff.mp (List.cons_ne_nil c rest)
      have hletter : ¬ (((bytes (c :: rest))[0]? = some 'Z'.toUInt8 ∨
          (bytes (c :: rest))[0]? = some 'z'.toUInt8) ∧ (bytes (c :: rest)).length = 1) := by
        rw [h.getElem?_cons_iff (by decide), h.getElem?_cons_iff (by decide)]
        rintro ⟨rfl | rfl, hone⟩
        · exact hcapital rfl ((h.next (by decide)).length_eq_iff.mp hone)
        · exact hsmall rfl ((h.next (by decide)).length_eq_iff.mp hone)
      rw [offset, if_neg hne, if_neg hletter]
      by_cases heast : c = '+'
      · subst heast
        rw [if_pos ((h.getElem?_cons_iff (by decide)).mpr rfl)]
        exact reads_behindSign (h.next (by decide)) false
      · rw [if_neg (mt (h.getElem?_cons_iff (by decide)).mp heast)]
        by_cases hwest : c = '-'
        · subst hwest
          rw [if_pos ((h.getElem?_cons_iff (by decide)).mpr rfl)]
          exact reads_behindSign (h.next (by decide)) true
        · rw [if_neg (mt (h.getElem?_cons_iff (by decide)).mp hwest), if_neg (by simp [heast, hwest])]
          exact .failure

/-! ## Times of day -/

theorem digits?_takeWhile (text : List Char) :
    Literal.digits? (text.takeWhile Char.isDigit).length text =
      some (Numeral.natOfDigits (text.takeWhile Char.isDigit), text.dropWhile Char.isDigit) := by
  have htake : text.take (text.takeWhile Char.isDigit).length = text.takeWhile Char.isDigit :=
    (List.prefix_iff_eq_take.mp (List.takeWhile_prefix _)).symm
  have hdrop : text.drop (text.takeWhile Char.isDigit).length = text.dropWhile Char.isDigit := by
    conv => lhs; arg 2; rw [← List.takeWhile_append_dropWhile (p := Char.isDigit) (l := text)]
    exact List.drop_left
  rw [digits?_eq_ite, htake, hdrop, if_pos ⟨(List.takeWhile_prefix _).length_le, List.all_takeWhile⟩]

/-- A run of digits ends at the first other byte. -/
theorem stop_eq (h : Spells all start text) :
    ((bytes text).findIdx? (fun b => !isDigitByte b)).elim all.length (start + ·) =
      start + (text.takeWhile Char.isDigit).length := by
  have hascii : ∀ c ∈ text.takeWhile Char.isDigit, isAscii c = true :=
    fun c hc => isAscii_of_isDigit (List.all_eq_true.mp List.all_takeWhile c hc)
  have hindex := encodes_isDigit.findIdx text
  rw [bytes_of_isAscii hascii, List.length_map] at hindex
  cases hfound : (bytes text).findIdx? (fun b => !isDigitByte b) with
  | none =>
      rw [List.findIdx?_eq_none_iff_findIdx_eq] at hfound
      have hle := h.le
      rw [← hindex, hfound, ← h.drop_eq, List.length_drop]
      exact (Nat.add_sub_cancel' hle).symm
  | some i =>
      rw [List.findIdx?_eq_some_iff_findIdx_eq] at hfound
      rw [← hindex, hfound.2]
      rfl

theorem reads_fraction (h : Spells all place text) :
    Reads (fun found found' => found.1 = found'.1 ∧ Spells all found.2 found'.2)
      (fraction all place) (Literal.fraction? text) := by
  unfold Literal.fraction?
  split
  · next rest =>
      have hstart : Spells all (place + 1) rest := h.next (by decide)
      rw [fraction, if_pos ((h.getElem?_cons_iff (by decide)).mpr rfl)]
      refine .lift (sliceFrom_of_spells hstart) ?_
      dsimp only
      rw [stop_eq hstart]
      refine .lift (minus_of_le (Nat.le_add_right _ _)) ?_
      rw [Nat.add_sub_cancel_left]
      split
      · next hwidth =>
          rw [Bool.and_eq_true, decide_eq_true_eq, decide_eq_true_eq] at hwidth
          refine .of_guard hwidth ?_
          have hdigits := reads_digits hstart hwidth.2
          rw [digits?_takeWhile] at hdigits
          refine hdigits.bind (g := fun found => some (found.1 * tenTo _, found.2)) ?_
          rintro n ⟨_, rest'⟩ ⟨rfl, hlt, hrest⟩ -
          have hnano := (⟨_, n, hwidth.1, hwidth.2, hlt⟩ : Fraction).nano_lt
          have hscale : 10 ^ (9 - (rest.takeWhile Char.isDigit).length) < 2 ^ 32 :=
            Nat.lt_of_le_of_lt (Nat.pow_le_pow_right (by decide) (Nat.sub_le 9 _)) (by decide)
          refine .lift (minus_of_le hwidth.2) (.lift (u32_of_lt (by omega)) (.lift (u32_of_lt hscale) ?_))
          refine .lift (u32_of_lt (Nat.lt_trans hnano (by decide))) (.lift (require_of hnano _) ?_)
          exact .pure ⟨rfl, hrest⟩
      · next hwidth =>
          rw [Bool.and_eq_true, decide_eq_true_eq, decide_eq_true_eq] at hwidth
          exact .of_not_guard hwidth
  · next hpoint =>
      rw [fraction, if_neg (h.getElem?_ne (by decide) hpoint)]
      exact .pure ⟨rfl, h⟩

theorem reads_seconds (h : Spells all place text) :
    Reads (fun found found' =>
        found.1 = found'.1 ∧ found.2.1 = found'.2.1 ∧ Spells all found.2.2 found'.2.2)
      (seconds all place) (Literal.seconds? text) := by
  unfold Literal.seconds?
  split
  · next rest =>
      have hstart : Spells all (place + 1) rest := h.next (by decide)
      rw [seconds, if_pos ((h.getElem?_cons_iff (by decide)).mpr rfl)]
      refine (reads_digits hstart (by decide)).bind ?_
      rintro second ⟨_, rest⟩ ⟨rfl, -, hrest⟩ -
      refine (reads_fraction hrest).bind ?_
      rintro ⟨nano, place⟩ ⟨_, rest⟩ ⟨rfl, hrest⟩ -
      exact .pure ⟨rfl, rfl, hrest⟩
  · next hcolon =>
      rw [seconds, if_neg (h.getElem?_ne (by decide) hcolon)]
      exact .pure ⟨rfl, rfl, h⟩

theorem reads_clock (text : List Char) : Reads Eq (clock (bytes text)) (Literal.clock? text) := by
  refine (reads_digits (Spells.start text) (by decide)).bind ?_
  rintro hour ⟨_, rest⟩ ⟨rfl, -, h⟩ -
  dsimp only at h ⊢
  split
  · next rest =>
      refine .of_guard ((h.getElem?_cons_iff (by decide)).mpr rfl) ?_
      refine (reads_digits (h.next (by decide)) (by decide)).bind ?_
      rintro minute ⟨_, rest⟩ ⟨rfl, -, hminute⟩ -
      refine (reads_seconds hminute).bind ?_
      rintro ⟨second, nano, place⟩ ⟨_, _, rest⟩ ⟨rfl, rfl, hseconds⟩ -
      refine .lift (sliceFrom_of_spells hseconds) ?_
      exact (reads_offset _).bind (by rintro o _ rfl -; exact .pure rfl)
  · next hcolon => exact .of_not_guard (h.getElem?_ne (by decide) hcolon)

/-! ## Shapes -/

/-- The shape, if the text ends, and else what follows a hyphen and two digits. -/
def orField? (shape : Literal.Shape) (next : Nat → List Char → Option Literal.Shape) :
    List Char → Option Literal.Shape
  | [] => some shape
  | '-' :: rest => do
    let (field, rest) ← Literal.digits? 2 rest
    next field rest
  | _ => none

def orClock? (year month day : Nat) : List Char → Option Literal.Shape
  | [] => some (.day year month day)
  | c :: rest =>
    if c = 'T' || c = 't' then do
      let (clock, offset) ← Literal.clock? rest
      return .time year month day clock offset
    else none

theorem shape?_eq (text : List Char) :
    Literal.shape? text = (do
      let (year, rest) ← Literal.digits? 4 text
      orField? (.year year) (fun month =>
        orField? (.month year month) fun day => orClock? year month day) rest) := rfl

theorem reads_orField {next : Nat → Checked Literal.Shape}
    {next? : Nat → List Char → Option Literal.Shape} (h : Spells all place text) (shape : Literal.Shape)
    (hnext : ∀ n rest, Spells all (place + 3) rest → Reads Eq (next n) (next? n rest)) :
    Reads Eq (orField all place shape next) (orField? shape next? text) := by
  unfold orField?
  split
  · rw [orField, if_pos (h.length_eq_iff.mpr rfl)]
    exact .pure rfl
  · next rest =>
      rw [orField, if_neg (mt h.length_eq_iff.mp (List.cons_ne_nil _ rest))]
      refine .of_guard ((h.getElem?_cons_iff (by decide)).mpr rfl) ?_
      refine (reads_digits (h.next (by decide)) (by decide)).bind ?_
      rintro n ⟨_, rest⟩ ⟨rfl, -, hrest⟩ -
      exact hnext _ _ hrest
  · next hnil hhyphen =>
      rw [orField, if_neg (mt h.length_eq_iff.mp hnil)]
      exact .of_not_guard (h.getElem?_ne (by decide) hhyphen)

theorem reads_orClock (h : Spells all 10 text) (year month day : Nat) :
    Reads Eq (orClock all year month day) (orClock? year month day text) := by
  unfold orClock?
  split
  · rw [orClock, if_pos (h.length_eq_iff.mpr rfl)]
    exact .pure rfl
  · next c rest =>
      have hletter : (all[10]? = some 'T'.toUInt8 ∨ all[10]? = some 't'.toUInt8) ↔
          (c = 'T' || c = 't') = true := by
        rw [h.getElem?_cons_iff (by decide), h.getElem?_cons_iff (by decide)]
        simp
      rw [orClock, if_neg (mt h.length_eq_iff.mp (List.cons_ne_nil c rest))]
      split
      · next hc =>
          have hascii : isAscii c = true := by
            simp only [Bool.or_eq_true, decide_eq_true_eq] at hc
            rcases hc with rfl | rfl <;> decide
          refine .of_guard (hletter.mpr hc) (.lift (sliceFrom_of_spells (h.next hascii)) ?_)
          refine (reads_clock rest).bind ?_
          rintro found _ rfl -
          exact .pure rfl
      · next hc => exact .of_not_guard (mt hletter.mp hc)

/-- **Shapes are read by places.** Each place is reached over the fields in front of it. -/
theorem reads_shape (text : List Char) : Reads Eq (shape (bytes text)) (Literal.shape? text) := by
  rw [shape?_eq]
  refine (reads_digits (Spells.start text) (by decide)).bind ?_
  rintro year ⟨_, rest⟩ ⟨rfl, hyear, hrest⟩ -
  refine .lift (i32_of_lt (by omega)) (reads_orField hrest _ ?_)
  intro month rest hmonth
  refine reads_orField hmonth _ ?_
  intro day rest hday
  exact reads_orClock hday _ month day

end RecordQuery.ByteReader
