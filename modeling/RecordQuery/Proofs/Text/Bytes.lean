import RecordQuery.Proofs.Time.Padded

/-!
# The bytes of a text

A text is kept in UTF-8. A character of ASCII is one byte, and all bytes of another character lie beyond
ASCII, so that a place reached over ASCII alone has a text in front of it and a text from it on.
-/

namespace RecordQuery.Text

/-- The text in UTF-8. -/
def bytes (text : List Char) : List UInt8 := text.flatMap String.utf8EncodeChar

def isAscii (c : Char) : Bool := c.toNat < 128

def isDigitByte (b : UInt8) : Bool := 48 ≤ b.toNat && b.toNat ≤ 57

variable {c : Char} {text rest : List Char}

/-! ## Characters -/

theorem isAscii_of_isDigit (h : c.isDigit = true) : isAscii c = true :=
  decide_eq_true (Nat.lt_of_le_of_lt (Numeral.toNat_of_isDigit h).2 (by decide))

theorem encode_of_isAscii (h : isAscii c = true) : String.utf8EncodeChar c = [c.toUInt8] := by
  have hc : c.val.toNat ≤ 127 := Nat.le_of_lt_succ (of_decide_eq_true h)
  rw [String.utf8EncodeChar, if_pos hc]
  rfl

theorem toNat_toUInt8 (h : isAscii c = true) : c.toUInt8.toNat = c.toNat := by
  have hc : c.toNat < 128 := of_decide_eq_true h
  show c.toNat % 256 = c.toNat
  exact Nat.mod_eq_of_lt (by omega)

theorem le_of_mem_encode {b : UInt8} (h : isAscii c = false) (hb : b ∈ String.utf8EncodeChar c) :
    128 ≤ b.toNat := by
  have hc : ¬ c.val.toNat ≤ 127 := by
    have hc : ¬ c.toNat < 128 := of_decide_eq_false h
    exact fun hle => hc (Nat.lt_succ_of_le hle)
  simp only [String.utf8EncodeChar, if_neg hc] at hb
  -- All bytes of two, three or four carry their highest bit.
  split at hb
  · simp only [List.mem_cons, List.not_mem_nil, or_false] at hb
    rcases hb with rfl | rfl <;> simp <;> omega
  · split at hb
    · simp only [List.mem_cons, List.not_mem_nil, or_false] at hb
      rcases hb with rfl | rfl | rfl <;> simp <;> omega
    · simp only [List.mem_cons, List.not_mem_nil, or_false] at hb
      rcases hb with rfl | rfl | rfl | rfl <;> simp <;> omega

/-! ## Classes -/

/-- The bytes of a character are in the one class as the character is in the other. -/
def Encodes (p : UInt8 → Bool) (q : Char → Bool) : Prop :=
  ∀ c, ∀ b ∈ String.utf8EncodeChar c, p b = q c

variable {p : UInt8 → Bool} {q : Char → Bool}

/-- A class of ASCII. -/
theorem Encodes.of_isAscii (hascii : ∀ c, isAscii c = true → p c.toUInt8 = q c)
    (hbyte : ∀ b : UInt8, 128 ≤ b.toNat → p b = false)
    (hchar : ∀ c, isAscii c = false → q c = false) : Encodes p q := by
  intro c b hb
  cases hc : isAscii c with
  | true =>
      rw [encode_of_isAscii hc, List.mem_singleton] at hb
      rw [hb, hascii c hc]
  | false => rw [hbyte b (le_of_mem_encode hc hb), hchar c hc]

theorem Encodes.not (h : Encodes p q) : Encodes (fun b => !p b) (fun c => !q c) :=
  fun c b hb => congrArg (! ·) (h c b hb)

theorem encodes_eq {d : Char} (hd : isAscii d = true) : Encodes (· == d.toUInt8) (· == d) := by
  have hd' : d.toNat < 128 := of_decide_eq_true hd
  refine .of_isAscii (fun c hc => ?_) (fun b hb => ?_) (fun c hc => ?_)
  · rw [Bool.eq_iff_iff, beq_iff_eq, beq_iff_eq, ← UInt8.toNat_inj, toNat_toUInt8 hc,
      toNat_toUInt8 hd, Char.toNat_inj]
  · rw [beq_eq_false_iff_ne]
    rintro rfl
    rw [toNat_toUInt8 hd] at hb
    omega
  · rw [beq_eq_false_iff_ne]
    rintro rfl
    rw [hd] at hc
    cases hc

theorem encodes_isDigit : Encodes isDigitByte Char.isDigit := by
  refine .of_isAscii (fun c hc => ?_) (fun b hb => ?_) (fun c hc => ?_)
  · rw [isDigitByte, toNat_toUInt8 hc, Bool.eq_iff_iff]
    simp [Char.isDigit, UInt32.le_iff_toNat_le]
  · have hlarge : ¬ b.toNat ≤ 57 := by omega
    simp [isDigitByte, hlarge]
  · rw [Bool.eq_false_iff]
    intro hdigit
    rw [isAscii_of_isDigit hdigit] at hc
    cases hc

/-! ## Texts -/

@[simp] theorem bytes_nil : bytes [] = [] := rfl

@[simp] theorem bytes_append (front rest : List Char) : bytes (front ++ rest) = bytes front ++ bytes rest :=
  List.flatMap_append

theorem bytes_cons (c : Char) (rest : List Char) :
    bytes (c :: rest) = String.utf8EncodeChar c ++ bytes rest := List.flatMap_cons

theorem bytes_cons_of_isAscii (h : isAscii c = true) (rest : List Char) :
    bytes (c :: rest) = c.toUInt8 :: bytes rest := by
  rw [bytes_cons, encode_of_isAscii h, List.singleton_append]

theorem bytes_of_isAscii (h : ∀ c ∈ text, isAscii c = true) : bytes text = text.map Char.toUInt8 := by
  induction text with
  | nil => rfl
  | cons c text ih =>
      obtain ⟨hc, htext⟩ := List.forall_mem_cons.mp h
      rw [bytes_cons_of_isAscii hc, ih htext, List.map_cons]

@[simp] theorem bytes_eq_nil : bytes text = [] ↔ text = [] := by
  cases text with
  | nil => simp
  | cons c text => simp [bytes_cons, String.utf8EncodeChar_ne_nil]

/-- The first byte decides about the character. -/
theorem Encodes.exists_cons (h : Encodes p q) (c : Char) (rest : List Char) :
    ∃ b others, bytes (c :: rest) = b :: others ∧ p b = q c := by
  obtain ⟨b, others, hencode⟩ := List.exists_cons_of_ne_nil (String.utf8EncodeChar_ne_nil (c := c))
  refine ⟨b, others ++ bytes rest, ?_, h c b (hencode ▸ List.mem_cons_self)⟩
  rw [bytes_cons, hencode, List.cons_append]

theorem Encodes.all (h : Encodes p q) (text : List Char) : (bytes text).all p = text.all q := by
  induction text with
  | nil => rfl
  | cons c text ih =>
      cases hc : q c with
      | true =>
          have hencode : (String.utf8EncodeChar c).all p = true :=
            List.all_eq_true.mpr fun b hb => (h c b hb).trans hc
          rw [bytes_cons, List.all_append, hencode, ih, List.all_cons, hc]
      | false =>
          obtain ⟨b, others, hbytes, hb⟩ := h.exists_cons c text
          rw [hbytes, List.all_cons, hb, hc, List.all_cons, hc, Bool.false_and, Bool.false_and]

theorem Encodes.takeWhile (h : Encodes p q) (text : List Char) :
    (bytes text).takeWhile p = bytes (text.takeWhile q) := by
  induction text with
  | nil => rfl
  | cons c text ih =>
      cases hc : q c with
      | true =>
          have hencode : ∀ b ∈ String.utf8EncodeChar c, p b = true :=
            fun b hb => (h c b hb).trans hc
          rw [bytes_cons, List.takeWhile_append_of_pos hencode, ih, List.takeWhile_cons_of_pos hc,
            bytes_cons]
      | false =>
          obtain ⟨b, others, hbytes, hb⟩ := h.exists_cons c text
          rw [hc] at hb
          simp [hbytes, hb, hc]

/-- The first byte outside of a class stands behind those of its characters. -/
theorem Encodes.findIdx (h : Encodes p q) (text : List Char) :
    (bytes text).findIdx (fun b => !p b) = (bytes (text.takeWhile q)).length := by
  rw [← h.takeWhile text, List.takeWhile_eq_take_findIdx_not, List.length_take]
  exact (Nat.min_eq_left List.findIdx_le_length).symm

/-- Digits are the same in bytes as in characters. -/
theorem take_digits_iff (count : Nat) (text : List Char) :
    (count ≤ (bytes text).length ∧ ((bytes text).take count).all isDigitByte = true) ↔
      (count ≤ text.length ∧ (text.take count).all Char.isDigit = true) := by
  induction count generalizing text with
  | zero => simp
  | succ count ih =>
      cases text with
      | nil => simp
      | cons c text =>
          cases hc : c.isDigit with
          | true =>
              have hdigit := encodes_isDigit c
              rw [encode_of_isAscii (isAscii_of_isDigit hc), List.forall_mem_singleton, hc] at hdigit
              simpa [bytes_cons_of_isAscii (isAscii_of_isDigit hc), hc, hdigit] using ih text
          | false =>
              obtain ⟨b, others, hbytes, hb⟩ := encodes_isDigit.exists_cons c text
              rw [hc] at hb
              simp [hbytes, hb, hc]

/-- Over characters of ASCII, characters are counted as bytes are. -/
theorem take_bytes {count : Nat} (hcount : count ≤ text.length)
    (h : ∀ c ∈ text.take count, isAscii c = true) : (bytes text).take count = bytes (text.take count) := by
  conv => lhs; rw [← List.take_append_drop count text, bytes_append]
  refine List.take_left' ?_
  rw [bytes_of_isAscii h, List.length_map, List.length_take_of_le hcount]

/-! ## Places -/

/-- The place is one of the bytes or their end, and `rest` is the text from it on. -/
structure Spells (all : List UInt8) (place : Nat) (rest : List Char) : Prop where
  le : place ≤ all.length
  drop_eq : all.drop place = bytes rest

namespace Spells

variable {all : List UInt8} {place : Nat} {d : Char}

theorem start (text : List Char) : Spells (bytes text) 0 text := ⟨Nat.zero_le _, rfl⟩

theorem behind (front rest : List Char) : Spells (bytes (front ++ rest)) (bytes front).length rest := by
  rw [bytes_append]
  exact ⟨by rw [List.length_append]; exact Nat.le_add_right _ _, List.drop_left⟩

theorem length_eq_iff (h : Spells all place rest) : all.length = place ↔ rest = [] := by
  rw [← bytes_eq_nil, ← h.drop_eq, List.drop_eq_nil_iff]
  exact ⟨Nat.le_of_eq, fun hle => Nat.le_antisymm hle h.le⟩

theorem getElem?_eq_iff (h : Spells all place rest) (hd : isAscii d = true) :
    all[place]? = some d.toUInt8 ↔ ∃ tail, rest = d :: tail := by
  rw [← List.head?_drop, h.drop_eq]
  cases rest with
  | nil => simp
  | cons c rest =>
      obtain ⟨b, others, hbytes, hb⟩ := (encodes_eq hd).exists_cons c rest
      rw [Bool.eq_iff_iff, beq_iff_eq, beq_iff_eq] at hb
      simp [hbytes, hb]

theorem getElem?_ne (h : Spells all place rest) (hd : isAscii d = true)
    (hrest : ∀ tail, rest = d :: tail → False) : all[place]? ≠ some d.toUInt8 := by
  rw [Ne, h.getElem?_eq_iff hd]
  exact fun ⟨tail, htail⟩ => hrest tail htail

theorem getElem?_cons_iff (h : Spells all place (c :: rest)) (hd : isAscii d = true) :
    all[place]? = some d.toUInt8 ↔ c = d := by
  rw [h.getElem?_eq_iff hd]
  simp

/-- Over characters of ASCII the place moves as the text does. -/
theorem drop {count : Nat} (h : Spells all place text) (hcount : count ≤ text.length)
    (hascii : ∀ c ∈ text.take count, isAscii c = true) :
    Spells all (place + count) (text.drop count) := by
  have hbytes : bytes text = bytes (text.take count) ++ bytes (text.drop count) := by
    rw [← bytes_append, List.take_append_drop]
  have hlength : (bytes (text.take count)).length = count := by
    rw [bytes_of_isAscii hascii, List.length_map, List.length_take_of_le hcount]
  have hle : count ≤ all.length - place := by
    rw [← List.length_drop, h.drop_eq, hbytes, List.length_append, hlength]
    exact Nat.le_add_right _ _
  refine ⟨?_, ?_⟩
  · have hplace := h.le
    omega
  · rw [← List.drop_drop, h.drop_eq, hbytes]
    exact List.drop_left' hlength

theorem next (h : Spells all place (c :: rest)) (hc : isAscii c = true) : Spells all (place + 1) rest :=
  h.drop (Nat.le_add_left 1 rest.length) (List.forall_mem_singleton.mpr hc)

end Spells

end RecordQuery.Text
