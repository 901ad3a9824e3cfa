import RecordQuery.Proofs.Query.LiteralGrammar
import RecordQuery.Proofs.Text.Bytes

/-!
# Literals read by places

Here literals are read from the bytes of a text: each field has its place in the bytes, integers have 32
bits, and dates are those of a calendar with a first and a last year. A part of the bytes that lies outside
of them, an integer that its type cannot hold and a date that the calendar does not reach are faults, which
end the reading. To find nothing is none.
-/

namespace RecordQuery.ByteReader

open Text

/-! ## Faults -/

inductive Fault where
  /-- A part of the bytes that reaches outside of them. -/
  | slice
  /-- More than nine digits to be read at once. -/
  | digits
  /-- An integer that its type cannot hold. -/
  | overflow
  /-- A fraction of a second that is no less than a second. -/
  | fraction
  /-- A step from a date of the calendar to one outside of it. -/
  | calendar
  deriving DecidableEq, Repr

/-- A reading ends in a fault, finds nothing, or finds a value. -/
abbrev Checked (α : Type) := OptionT (Except Fault) α

def require (p : Prop) [Decidable p] (fault : Fault) : Except Fault Unit :=
  if p then .ok () else .error fault

/-- An unsigned integer of 32 bits. -/
def u32 (n : Nat) : Except Fault Nat := do
  require (n < 2 ^ 32) .overflow
  return n

/-- A signed integer of 32 bits. -/
def i32 (n : Int) : Except Fault Int := do
  require (-2 ^ 31 ≤ n ∧ n < 2 ^ 31) .overflow
  return n

/-- A difference of unsigned integers. -/
def minus (m n : Nat) : Except Fault Nat := do
  require (n ≤ m) .overflow
  return m - n

def sliceFrom (all : List UInt8) (start : Nat) : Except Fault (List UInt8) := do
  require (start ≤ all.length) .slice
  return all.drop start

def sliceTo (all : List UInt8) (stop : Nat) : Except Fault (List UInt8) := do
  require (stop ≤ all.length) .slice
  return all.take stop

def byteAt (all : List UInt8) (place : Nat) : Except Fault UInt8 :=
  match all[place]? with
  | some b => .ok b
  | none => .error .slice

theorem ok_bind {α β : Type} (a : α) (f : α → Except Fault β) : (Except.ok a >>= f) = f a := rfl

theorem require_of {p : Prop} [Decidable p] (h : p) (fault : Fault) : require p fault = .ok () := if_pos h

theorem u32_of_lt {n : Nat} (h : n < 2 ^ 32) : u32 n = .ok n := by
  rw [u32, require_of h]
  rfl

theorem i32_of_lt {n : Int} (h : -2 ^ 31 ≤ n ∧ n < 2 ^ 31) : i32 n = .ok n := by
  rw [i32, require_of h]
  rfl

theorem minus_of_le {m n : Nat} (h : n ≤ m) : minus m n = .ok (m - n) := by
  rw [minus, require_of h]
  rfl

variable {all : List UInt8} {place : Nat} {text : List Char}

theorem sliceFrom_of_spells (h : Spells all place text) : sliceFrom all place = .ok (bytes text) := by
  rw [sliceFrom, require_of h.le, h.drop_eq]
  rfl

theorem sliceTo_of_spells (h : Spells all place text) : sliceTo all place = .ok (all.take place) := by
  rw [sliceTo, require_of h.le]
  rfl

theorem byteAt_of_getElem? {b : UInt8} (h : all[place]? = some b) : byteAt all place = .ok b := by
  rw [byteAt, h]

/-! ## Shapes -/

def appendDigit (n : Nat) (b : UInt8) : Except Fault Nat := do
  u32 ((← u32 (n * 10)) + (← minus b.toNat 48))

/-- The value of a run of digits. -/
def valueOf (run : List UInt8) : Except Fault Nat := run.foldlM appendDigit 0

/-- Exactly `count` digits from a place on. -/
def digits (all : List UInt8) (start count : Nat) : Checked Nat := do
  require (count ≤ 9) .digits
  let run := (all.drop start).take count
  guard (start + count ≤ all.length ∧ run.all isDigitByte)
  valueOf run

/-- The minutes of an offset, which end it: none, two digits, or a colon and two digits. -/
def behindHours (all : List UInt8) : Checked Nat :=
  if all.length = 3 then return 0
  else if all.length = 5 then digits all 3 2
  else if all.length = 6 then do
    guard ((← byteAt all 3) = ':'.toUInt8)
    digits all 4 2
  else failure

def behindSign (all : List UInt8) (west : Bool) : Checked Literal.Offset := do
  let hours ← digits all 1 2
  let minutes ← behindHours all
  return ⟨west, hours, minutes⟩

def offset (all : List UInt8) : Checked Literal.Offset :=
  if all.length = 0 then return ⟨false, 0, 0⟩
  else if (all[0]? = some 'Z'.toUInt8 ∨ all[0]? = some 'z'.toUInt8) ∧ all.length = 1 then
    return ⟨false, 0, 0⟩
  else if all[0]? = some '+'.toUInt8 then behindSign all false
  else if all[0]? = some '-'.toUInt8 then behindSign all true
  else failure

/-- The nanoseconds of a fraction, and the place behind it. -/
def fraction (all : List UInt8) (place : Nat) : Checked (Nat × Nat) :=
  if all[place]? = some '.'.toUInt8 then do
    let start := place + 1
    let stop := ((← sliceFrom all start).findIdx? (! isDigitByte ·)).elim all.length (start + ·)
    let count ← minus stop start
    guard (1 ≤ count ∧ count ≤ 9)
    let n ← digits all start count
    let scale ← u32 (10 ^ (← u32 (← minus 9 count)))
    let nano ← u32 (n * scale)
    require (nano < 1000000000) .fraction
    return (nano, stop)
  else return (0, place)

/-- Seconds and the nanoseconds of their fraction, and the place behind them. -/
def seconds (all : List UInt8) (place : Nat) : Checked (Nat × Nat × Nat) :=
  if all[place]? = some ':'.toUInt8 then do
    let second ← digits all (place + 1) 2
    let (nano, place) ← fraction all (place + 3)
    return (second, nano, place)
  else return (0, 0, place)

def clock (all : List UInt8) : Checked (Clock × Literal.Offset) := do
  let hour ← digits all 0 2
  guard (all[2]? = some ':'.toUInt8)
  let minute ← digits all 3 2
  let (second, nano, place) ← seconds all 5
  let offset ← offset (← sliceFrom all place)
  return (⟨hour, minute, second, nano⟩, offset)

/-- The shape, if the bytes end at the place, and else what follows a hyphen and two digits. -/
def orField (all : List UInt8) (place : Nat) (shape : Literal.Shape) (next : Nat → Checked Literal.Shape) :
    Checked Literal.Shape :=
  if all.length = place then return shape
  else do
    guard (all[place]? = some '-'.toUInt8)
    let field ← digits all (place + 1) 2
    next field

def orClock (all : List UInt8) (year month day : Nat) : Checked Literal.Shape :=
  if all.length = 10 then return .day year month day
  else do
    guard (all[10]? = some 'T'.toUInt8 ∨ all[10]? = some 't'.toUInt8)
    let (clock, offset) ← clock (← sliceFrom all 11)
    return .time year month day clock offset

def shape (all : List UInt8) : Checked Literal.Shape := do
  let year ← digits all 0 4
  let _ ← i32 year
  orField all 4 (.year year) fun month =>
    orField all 7 (.month year month) fun day =>
      orClock all year month day

/-! ## Numerals -/

def allDigits (part : List UInt8) : Bool := !part.isEmpty && part.all isDigitByte

/-- What stands behind a sign. -/
def unsigned (all : List UInt8) : Except Fault (List UInt8) :=
  if all[0]? = some '+'.toUInt8 ∨ all[0]? = some '-'.toUInt8 then sliceFrom all 1 else .ok all

/-- Digits, or digits on both sides of the first point. -/
def isDecimal (all : List UInt8) : Except Fault Bool :=
  match all.findIdx? (· == '.'.toUInt8) with
  | some point => return allDigits (← sliceTo all point) && allDigits (← sliceFrom all (point + 1))
  | none => return allDigits all

def isNumeral (all : List UInt8) : Except Fault Bool := do isDecimal (← unsigned all)

/-! ## Values -/

def ofOption {α : Type} (o : Option α) : Checked α := OptionT.mk (.ok o)

/-- Seconds east of UTC. -/
def secondsEast (o : Literal.Offset) : Checked Int := do
  guard (o.minutes < 60)
  let total ← i32 (← u32 ((← u32 (o.hours * 3600)) + (← u32 (o.minutes * 60))))
  let east ← i32 (if o.west then -total else total)
  guard (-86400 < east ∧ east < 86400)
  return east

/-- The date that a step leads to. -/
def reached : Option Date → Except Fault Date
  | some d => .ok d
  | none => .error .calendar

def dayAfter (d : Date) : Except Fault Date := do
  require (Date.yearInRange (Literal.dayAfter d).year = true) .calendar
  return Literal.dayAfter d

/-- The instant, if its date is one of the calendar. -/
def onDate (x : Instant) : Except Fault Instant := do
  require (Date.yearInRange x.date.year = true) .calendar
  return x

def span (first next : Date) : Except Fault Period := do
  let last ← onDate (Instant.beforeMidnight next)
  return ⟨Instant.midnight first, last, false⟩

/-- The period that the fields name. The calendar may lack their own date, but not one that is reached
from it. -/
def period : Literal.Shape → Checked Period
  | .year y => do
    let first ← ofOption (Date.ofFields? y 1 1)
    let next ← reached (Date.ofFields? (← i32 (y + 1)) 1 1)
    span first next
  | .month y m => do
    let first ← ofOption (Date.ofFields? y m 1)
    let next ←
      if m = 12 then reached (Date.ofFields? (← i32 (y + 1)) 1 1)
      else reached (Date.ofFields? y (← u32 (m + 1)) 1)
    span first next
  | .day y m d => do
    let date ← ofOption (Date.ofFields? y m d)
    span date (← dayAfter date)
  | .time y m d clock offset => do
    let date ← ofOption (Date.ofFields? y m d)
    guard (clock.isValid = true)
    let east ← secondsEast offset
    let x ← ofOption (Instant.ofDateTime? date clock east)
    let x ← onDate x
    return ⟨x, x, true⟩

/-- What the text is as a literal. -/
def classify (text : List Char) : Except Fault Literal.Reading := do
  let all := bytes text
  match ← (shape all).run with
  | some s =>
    match ← (period s).run with
    | some p => return .valid (.period p)
    | none => return .malformed
  | none =>
    if ← isNumeral all then
      match Numeral.read? text with
      | some x => if x.isFinite then return .valid (.number x) else return .malformed
      | none => return .malformed
    else return .neither

/-! ## Readings that agree -/

/-- The reading has no fault and finds what the other finds, up to a relation. -/
def Reads {α β : Type} (R : α → β → Prop) (m : Checked α) (o : Option β) : Prop :=
  ∃ found, m.run = .ok found ∧ Option.Rel R found o

namespace Reads

variable {α β γ δ : Type} {R : α → β → Prop} {S : γ → δ → Prop} {m : Checked α} {o : Option β}
  {a : α} {b : β} {f : α → Checked γ} {o' : Option δ}

theorem pure (h : R a b) : Reads R (Pure.pure a) (some b) := ⟨some a, rfl, .some h⟩

theorem failure : Reads R failure none := ⟨none, rfl, .none⟩

/-- Where nothing is found, the relation says nothing. -/
theorem of_none {T : α → δ → Prop} (h : Reads R m none) : Reads T m none := by
  obtain ⟨found, hrun, hfound⟩ := h
  cases hfound
  exact ⟨none, hrun, .none⟩

theorem exists_of_some (h : Reads R m (some b)) : ∃ a, R a b := by
  obtain ⟨found, -, hfound⟩ := h
  cases hfound with
  | some h => exact ⟨_, h⟩

/-- Readings that agree are followed by readings that agree. -/
theorem bind {g : β → Option δ} (hm : Reads R m o)
    (hf : ∀ a b, R a b → o = some b → Reads S (f a) (g b)) : Reads S (m >>= f) (o >>= g) := by
  obtain ⟨found, hrun, hfound⟩ := hm
  cases hfound with
  | none => exact ⟨none, by rw [OptionT.run_bind, hrun]; rfl, .none⟩
  | some h =>
      obtain ⟨found, hrun', hfound⟩ := hf _ _ h rfl
      exact ⟨found, by rw [OptionT.run_bind, hrun]; exact hrun', hfound⟩

theorem map {T : γ → β → Prop} {f : α → γ} (hm : Reads R m o) (hf : ∀ a b, R a b → T (f a) b) :
    Reads T (m >>= fun a => Pure.pure (f a)) o := by
  rw [← bind_pure o]
  exact hm.bind fun a b h _ => .pure (hf a b h)

theorem lift {m : Except Fault α} (hm : m = .ok a) (hf : Reads S (f a) o') :
    Reads S ((liftM m : Checked α) >>= f) o' := by
  rw [hm]
  exact hf

theorem of_guard {p : Prop} [Decidable p] {f : Unit → Checked γ} (hp : p)
    (hf : Reads S (f ()) o') : Reads S (guard p >>= f) o' := by
  rw [guard, if_pos hp]
  exact hf

theorem of_not_guard {p : Prop} [Decidable p] {f : Unit → Checked γ} (hp : ¬ p) :
    Reads S (guard p >>= f) none := by
  rw [guard, if_neg hp]
  exact failure

theorem eq_iff {m : Checked α} {o : Option α} : Reads Eq m o ↔ m.run = .ok o := by
  constructor
  · rintro ⟨found, hrun, hfound⟩
    cases hfound with
    | none => exact hrun
    | some h => exact h ▸ hrun
  · intro hrun
    refine ⟨o, hrun, ?_⟩
    cases o with
    | none => exact .none
    | some a => exact .some rfl

end Reads

end RecordQuery.ByteReader
