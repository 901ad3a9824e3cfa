import RecordQuery.Proofs.Query.Conditions
import RecordQuery.Proofs.Query.DefaultKey
import RecordQuery.Proofs.Query.Reports
import RecordQuery.Settings.Basic

/-!
# What a warning about settings means

Each warning is a promise about all queries that are read under the settings: what it says will be left out
is left out of every one of them, and without the warning of the default key no term is left out for having
no key of its own.
-/

namespace RecordQuery

variable {rules : Rules} {q : String}

/-! ## Queries that are too long -/

namespace TokenStream

/-- Of a query that is too long nothing is read, and it is reported for that alone. -/
theorem ofQuery_of_not_admits (h : rules.admits q = false) :
    ∃ limit, rules.maxQueryLength = some limit ∧ ofQuery rules q = ⟨[], [.tooLong q.length limit]⟩ := by
  unfold Rules.admits at h
  unfold ofQuery
  cases hlimit : rules.maxQueryLength with
  | none =>
      rw [hlimit] at h
      cases h
  | some limit =>
      have hlt : limit < q.length := by simpa [hlimit] using h
      exact ⟨limit, rfl, if_pos hlt⟩

end TokenStream

namespace Parsed

/-! ## Keys of the terms of a query -/

/-- A term of a query is one that its text has under the plain rules, under the default key if it has no key
there, and its key is allowed. -/
theorem exists_of_mem_tokens {t : Token} {x : Term} (ht : t ∈ (Parsed.ofQuery rules q).tokens)
    (hx : t.kind = .term x) : ∃ y : Term, x = y.under rules.defaultKey ∧ rules.allows x = true := by
  obtain ⟨kind, position⟩ := t
  obtain rfl : kind = .term x := hx
  obtain ⟨y, -, hy, hallowed⟩ :=
    TokenStream.exists_of_mem_terms (TokenStream.mem_ofText_of_mem_ofQuery ht)
  exact ⟨y, hy, hallowed⟩

/-- Where the default key is not allowed, every term has a key, and another one. -/
theorem exists_key_of_rejected {key : String} (hkey : rules.defaultKey = some key)
    (hrejected : rules.accepts key = false) {t : Token} {x : Term}
    (ht : t ∈ (Parsed.ofQuery rules q).tokens) (hx : t.kind = .term x) :
    ∃ k, x.key? = some k ∧ k ≠ key := by
  obtain ⟨y, rfl, hallowed⟩ := exists_of_mem_tokens ht hx
  rw [hkey] at hallowed ⊢
  obtain ⟨k, hk⟩ : ∃ k, (y.under (some key)).key? = some k := by
    cases y with
    | number k _ _ | date k _ _ => exact ⟨k, rfl⟩
    | text own _ _ =>
        cases own with
        | none => exact ⟨key, rfl⟩
        | some k => exact ⟨k, rfl⟩
  have haccepted : rules.accepts k = true := by simpa [Rules.allows, hk] using hallowed
  refine ⟨k, hk, ?_⟩
  rintro rfl
  rw [hrejected] at haccepted
  cases haccepted

/-- Where no key is allowed, no term has one. -/
theorem key?_eq_none_of_no_keys (hkeys : rules.validKeys = some []) {t : Token} {x : Term}
    (ht : t ∈ (Parsed.ofQuery rules q).tokens) (hx : t.kind = .term x) : x.key? = none := by
  obtain ⟨y, -, hallowed⟩ := exists_of_mem_tokens ht hx
  cases hk : x.key? with
  | none => rfl
  | some k => exact absurd (Rules.allows_iff.mp hallowed k hk [] hkeys) List.not_mem_nil

/-! ## Terms that are written without a key -/

variable {form : Form} {text : String} {position : Nat}

/-- A term without a key is reported once where the default key is not allowed, and as nothing else. -/
theorem filter_problems_of_rejected {key : String} (hkey : rules.defaultKey = some key)
    (hrejected : rules.accepts key = false) (hadmitted : rules.admits (Text.normalize q) = true)
    (h : TokenStream.WritesKeyless (Text.normalize q) form text position) :
    (Parsed.ofQuery rules q).problems.filter (·.position == position) =
      [⟨.invalidKey key text, position⟩] := by
  rw [problems_of_admits hadmitted, h.filter_problems rules, hkey]
  simp [Option.filter, hrejected]

/-- Where the default key, or none, is allowed, no term without a key is reported for its key. -/
theorem invalidKey_notMem_problems (hallowed : rules.defaultKey.all rules.accepts = true)
    (h : TokenStream.WritesKeyless (Text.normalize q) form text position) (key value : String) :
    ⟨.invalidKey key value, position⟩ ∉ (Parsed.ofQuery rules q).problems := by
  intro hmem
  cases hadmitted : rules.admits (Text.normalize q) with
  | false =>
      obtain ⟨limit, -, hlong⟩ := TokenStream.ofQuery_of_not_admits hadmitted
      change _ ∈ (TokenStream.ofQuery rules (Text.normalize q)).problems at hmem
      rw [hlong] at hmem
      simp [Problem.tooLong] at hmem
  | true =>
      have hnone : rules.defaultKey.filter (!rules.accepts ·) = none := by
        simpa [Option.filter_eq_none_iff, Option.all_eq_true] using hallowed
      have hplace := h.filter_problems rules
      rw [hnone, ← problems_of_admits hadmitted] at hplace
      have hnot := List.filter_eq_nil_iff.mp hplace _ hmem
      simp at hnot

/-- It is among the terms, under the default key. -/
theorem mem_tokens_of_writesKeyless (hallowed : rules.defaultKey.all rules.accepts = true)
    (hadmitted : rules.admits (Text.normalize q) = true)
    (h : TokenStream.WritesKeyless (Text.normalize q) form text position) :
    ⟨.term (.text rules.defaultKey form text), position⟩ ∈ (Parsed.ofQuery rules q).tokens := by
  change _ ∈ (TokenStream.ofQuery rules (Text.normalize q)).tokens
  rw [TokenStream.ofQuery_of_admits hadmitted]
  exact h.mem_tokens hallowed

/-- Where no character is allowed, nothing is read of a query that is not blank. -/
theorem ofQuery_of_no_length (hlimit : rules.maxQueryLength = some 0) {c : Char} (hmem : c ∈ q.toList)
    (hc : Text.isBlank c = false) :
    (Parsed.ofQuery rules q).tokens = [] ∧ (Parsed.ofQuery rules q).tree = none ∧
      (Parsed.ofQuery rules q).problems = [.tooLong (Text.normalize q).length 0] := by
  have hne : Text.normalize q ≠ "" := by
    intro hempty
    exact Text.toList_normalize_ne_nil hmem hc (by rw [hempty]; rfl)
  have hlong : rules.admits (Text.normalize q) = false := by simpa [Rules.admits, hlimit] using hne
  obtain ⟨limit, hlimit', hread⟩ := TokenStream.ofQuery_of_not_admits hlong
  obtain rfl : 0 = limit := Option.some.inj (hlimit.symm.trans hlimit')
  refine ⟨congrArg TokenStream.tokens hread, ?_, congrArg TokenStream.problems hread⟩
  exact congrArg (fun stream => Tree.ofTokens? stream.tokens) hread

end Parsed

namespace Settings

variable {s : Settings}

/-! ## When a warning is given -/

theorem invalidDefaultKey_mem_warnings {key : String} : .invalidDefaultKey key ∈ s.warnings ↔
    s.rules.defaultKey = some key ∧ s.rules.accepts key = false := by
  unfold warnings Rules.accepts
  cases s.rules.validKeys with
  | none => simp
  | some keys =>
      cases s.rules.defaultKey with
      | none => simp
      | some default =>
          by_cases hin : default ∈ keys
          · have hnone : ¬ (default = key ∧ key ∉ keys) := by
              rintro ⟨rfl, hnot⟩
              exact hnot hin
            simpa [hin] using hnone
          · have hone : key = default ↔ default = key ∧ key ∉ keys := by
              constructor
              · rintro rfl
                exact ⟨rfl, hin⟩
              · rintro ⟨rfl, -⟩
                rfl
            simpa [hin] using hone

theorem noValidKeys_mem_warnings : .noValidKeys ∈ s.warnings ↔ s.rules.validKeys = some [] := by
  unfold warnings
  cases s.rules.validKeys with
  | none => simp
  | some keys => cases keys <;> cases s.rules.defaultKey <;> simp

theorem zeroLength_mem_warnings : .zeroLength ∈ s.warnings ↔ s.rules.maxQueryLength = some 0 := by
  unfold warnings
  cases s.rules.validKeys <;> cases s.rules.defaultKey <;> simp

/-- Without the warning of the default key it is allowed, or there is none. -/
theorem all_accepts_of_no_warning (h : ∀ key, .invalidDefaultKey key ∉ s.warnings) :
    s.rules.defaultKey.all s.rules.accepts = true := by
  rw [Option.all_eq_true]
  intro key hkey
  by_contra hrejected
  exact h key (invalidDefaultKey_mem_warnings.mpr ⟨hkey, by simpa using hrejected⟩)

end Settings

/-- What the warnings about settings say of a query that is read as `p`. -/
structure Settings.WarningsSound (s : Settings) (q : String) (p : Parsed) : Prop where
  /-- The default key is warned of if there is one and it is not allowed. -/
  invalidDefaultKey : ∀ key, .invalidDefaultKey key ∈ s.warnings ↔
    s.rules.defaultKey = some key ∧ s.rules.accepts key = false
  /-- Where it is not allowed, every term has a key, and another one than it. -/
  keyed : ∀ key, .invalidDefaultKey key ∈ s.warnings → ∀ t ∈ p.tokens, ∀ x, t.kind = .term x →
    ∃ k, x.key? = some k ∧ k ≠ key
  /-- A term written without a key is reported for it, once, unless the query is too long. -/
  rejected : ∀ key, .invalidDefaultKey key ∈ s.warnings → s.rules.admits (Text.normalize q) = true →
    ∀ form text position, TokenStream.WritesKeyless (Text.normalize q) form text position →
      p.problems.filter (·.position == position) = [⟨.invalidKey key text, position⟩]
  /-- Without that warning no term is reported for having no key, and unless the query is too long each is
  read under the default key. -/
  unkeyed : (∀ key, .invalidDefaultKey key ∉ s.warnings) →
    ∀ form text position, TokenStream.WritesKeyless (Text.normalize q) form text position →
      (∀ key value, ⟨.invalidKey key value, position⟩ ∉ p.problems) ∧
        (s.rules.admits (Text.normalize q) = true →
          ⟨.term (.text s.rules.defaultKey form text), position⟩ ∈ p.tokens)
  /-- If no key is allowed, no term has one. -/
  noValidKeys : .noValidKeys ∈ s.warnings → ∀ t ∈ p.tokens, ∀ x, t.kind = .term x → x.key? = none
  /-- If no query is short enough, nothing is read of one that is not blank, and it is reported for that
  alone. -/
  zeroLength : .zeroLength ∈ s.warnings → ∀ c ∈ q.toList, Text.isBlank c = false →
    p.tokens = [] ∧ p.tree = none ∧ p.problems = [.tooLong (Text.normalize q).length 0]

/-- **Warnings are sound.** Whatever the settings, each of their warnings holds of every query. -/
theorem Settings.warnings_sound (s : Settings) (q : String) :
    s.WarningsSound q (Parsed.ofQuery s.rules q) where
  invalidDefaultKey _ := invalidDefaultKey_mem_warnings
  keyed := by
    intro key hwarned t ht x hx
    obtain ⟨hkey, hrejected⟩ := invalidDefaultKey_mem_warnings.mp hwarned
    exact Parsed.exists_key_of_rejected hkey hrejected ht hx
  rejected := by
    intro key hwarned hadmitted form text position h
    obtain ⟨hkey, hrejected⟩ := invalidDefaultKey_mem_warnings.mp hwarned
    exact Parsed.filter_problems_of_rejected hkey hrejected hadmitted h
  unkeyed := by
    intro hnone form text position h
    have hallowed := all_accepts_of_no_warning hnone
    exact ⟨Parsed.invalidKey_notMem_problems hallowed h,
      fun hadmitted => Parsed.mem_tokens_of_writesKeyless hallowed hadmitted h⟩
  noValidKeys := by
    intro hwarned t ht x hx
    exact Parsed.key?_eq_none_of_no_keys (noValidKeys_mem_warnings.mp hwarned) ht hx
  zeroLength := by
    intro hwarned c hmem hc
    exact Parsed.ofQuery_of_no_length (zeroLength_mem_warnings.mp hwarned) hmem hc

/-- A default key that is not allowed, the same key where it is, and settings under which no query has a key or
is short enough. -/
theorem Settings.warnings_sound_body :
    let warned : Settings := { rules := { validKeys := some ["title"], defaultKey := some "body" } }
    let clean : Settings := { rules := { validKeys := some ["body"], defaultKey := some "body" } }
    let closed : Settings := { rules := { validKeys := some [], maxQueryLength := some 0 } }
    let q := "title:x   dragon"
    TokenStream.WritesKeyless (Text.normalize q) .word "dragon" 8 ∧
      (.invalidDefaultKey "body" ∈ warned.warnings ∧
        (Parsed.ofQuery warned.rules q).problems.filter (·.position == 8) =
          [⟨.invalidKey "body" "dragon", 8⟩]) ∧
      (clean.warnings = [] ∧
        ⟨.term (.text (some "body") .word "dragon"), 8⟩ ∈ (Parsed.ofQuery clean.rules q).tokens) ∧
      (closed.warnings = [.noValidKeys, .zeroLength] ∧
        (Parsed.ofQuery closed.rules q).problems = [.tooLong 14 0]) := by
  intro warned clean closed q
  have hwrites : TokenStream.WritesKeyless (Text.normalize q) .word "dragon" 8 := by
    unfold TokenStream.WritesKeyless
    decide +kernel
  have hwarned : .invalidDefaultKey "body" ∈ warned.warnings := by decide +kernel
  have hclean : clean.warnings = [] := by decide +kernel
  have hclosed : closed.warnings = [.noValidKeys, .zeroLength] := by decide +kernel
  have hlength : (Text.normalize q).length = 14 := by decide +kernel
  refine ⟨hwrites, ⟨hwarned, ?_⟩, ⟨hclean, ?_⟩, hclosed, ?_⟩
  · exact (warnings_sound warned q).rejected "body" hwarned rfl .word "dragon" 8 hwrites
  · have hnone : ∀ key, .invalidDefaultKey key ∉ clean.warnings := by simp [hclean]
    exact ((warnings_sound clean q).unkeyed hnone .word "dragon" 8 hwrites).2 rfl
  · obtain ⟨-, -, hproblems⟩ :=
      (warnings_sound closed q).zeroLength (by simp [hclosed]) 'x' (by decide +kernel) (by decide)
    rw [hproblems, hlength]

end RecordQuery
