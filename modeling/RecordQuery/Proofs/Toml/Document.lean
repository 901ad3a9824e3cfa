import RecordQuery.Proofs.Toml.Quoted
import RecordQuery.Proofs.Toml.Scalar
import RecordQuery.Toml.Document

/-!
# Written documents

A document is read back piece by piece: a reader that has read what stands before a piece goes on behind
it with what the piece says. So the laws here say where a reader stands after a written value, a pair, a
header and a whole section, whatever follows.
-/

namespace RecordQuery.Toml

/-! ## Lexemes -/

namespace Lexeme

theorem allFrom?_eq_drop (skip : Nat) (text : List Char) :
    allFrom? skip text = allFrom? 0 (text.drop skip) := by
  induction skip generalizing text with
  | zero => rfl
  | succ skip ih =>
      cases text with
      | nil => rfl
      | cons c rest => exact ih rest

/-- A piece of a text that is one lexeme is the first of them. -/
theorem allFrom?_append {x : Lexeme} {piece rest : List Char} (hne : piece ≠ [])
    (h : at? (piece ++ rest) = some (x, piece.length)) :
    allFrom? 0 (piece ++ rest) = (allFrom? 0 rest).map (x :: ·) := by
  cases piece with
  | nil => exact absurd rfl hne
  | cons c piece =>
      rw [List.cons_append] at h ⊢
      simp only [allFrom?, h, List.length_cons, Option.bind_eq_bind, Option.bind_some,
        Nat.add_sub_cancel]
      rw [allFrom?_eq_drop piece.length, List.drop_left]
      cases allFrom? 0 rest <;> rfl

theorem breaksPaired_of_notMem {text : List Char} (h : '\r' ∉ text) :
    breaksPaired text = true := by
  fun_induction breaksPaired text with
  | case1 => rfl
  | case2 => simp at h
  | case3 c rest ih => simp at h
  | case4 c rest hc hne ih => exact ih fun hmem => h (List.mem_cons_of_mem _ hmem)

theorem notMem_of_isBare {c : Char} (h : isBare c = true) : c ∉ ['"', '\'', '\r', '\n', ' ', '\t', '#'] := by
  intro hmem
  simp only [List.mem_cons, List.not_mem_nil, or_false] at hmem
  rcases hmem with rfl | rfl | rfl | rfl | rfl | rfl | rfl <;> cases h

theorem isMark_of_isBare {c : Char} (h : isBare c = true) : isMark c = false := by
  cases hmark : isMark c with
  | false => rfl
  | true =>
      simp only [isMark, Bool.or_eq_true, beq_iff_eq] at hmark
      rcases hmark with (((((rfl | rfl) | rfl) | rfl) | rfl) | rfl) | rfl <;> cases h

theorem at?_bare {run rest : List Char} (hne : run ≠ []) (hrun : ∀ c ∈ run, isBare c = true)
    (hrest : rest.head?.all (!isBare ·)) : at? (run ++ rest) = some (.bare run, run.length) := by
  cases run with
  | nil => exact absurd rfl hne
  | cons c run =>
      have hc := hrun c List.mem_cons_self
      have hother := notMem_of_isBare hc
      have htake : (run ++ rest).takeWhile isBare = run := by
        rw [List.takeWhile_append_of_pos fun d hd => hrun d (List.mem_cons_of_mem _ hd)]
        cases rest with
        | nil => simp
        | cons d rest => simp_all
      rw [List.cons_append, at?]
      · simp_all [isMark_of_isBare hc]
      all_goals
        intros
        subst_vars
        simp at hother

end Lexeme

/-! ## Reading on -/

namespace Reader

/-- The reader after more text, if that can be read. -/
def after? (r : Reader) (text : List Char) : Option Reader :=
  (Lexeme.allFrom? 0 text).bind (·.foldlM step? r)

theorem after?_nil (r : Reader) : r.after? [] = some r := rfl

/-- A piece of a text that is one lexeme is one step. -/
theorem after?_append {x : Lexeme} {piece rest : List Char} (r : Reader) (hne : piece ≠ [])
    (h : Lexeme.at? (piece ++ rest) = some (x, piece.length)) :
    r.after? (piece ++ rest) = (r.step? x).bind (·.after? rest) := by
  rw [after?, Lexeme.allFrom?_append hne h]
  cases hall : Lexeme.allFrom? 0 rest with
  | none => cases r.step? x <;> simp [after?, hall]
  | some lexemes => cases hstep : r.step? x <;> simp [after?, hall, hstep]

theorem after?_blank (r : Reader) (rest : List Char) :
    r.after? (' ' :: rest) = (r.step? (.blank ' ')).bind (·.after? rest) :=
  r.after?_append (List.cons_ne_nil ' ' []) rfl

theorem after?_lineBreak (r : Reader) (rest : List Char) :
    r.after? ('\n' :: rest) = (r.step? .lineBreak).bind (·.after? rest) :=
  r.after?_append (List.cons_ne_nil '\n' []) rfl

theorem after?_mark (r : Reader) {c : Char} (hc : c = '=' ∨ c = ',' ∨ c = '[' ∨ c = ']')
    (rest : List Char) : r.after? (c :: rest) = (r.step? (.mark c)).bind (·.after? rest) := by
  refine r.after?_append (List.cons_ne_nil c []) ?_
  rcases hc with rfl | rfl | rfl | rfl <;> rfl

theorem after?_bare (r : Reader) {run rest : List Char} (hne : run ≠ [])
    (hrun : ∀ c ∈ run, Lexeme.isBare c = true) (hrest : rest.head?.all (!Lexeme.isBare ·)) :
    r.after? (run ++ rest) = (r.step? (.bare run)).bind (·.after? rest) :=
  r.after?_append hne (Lexeme.at?_bare hne hrun hrest)

/-- What is open decides what a value completes. -/
theorem complete?_stage (r : Reader) (stage : Stage) (v : Toml) :
    complete? { r with stage } v = complete? r v := by
  obtain ⟨root, header, stack, stage'⟩ := r
  cases stack with
  | nil => rfl
  | cons opened outer => cases opened <;> rfl

/-- After a value the line ends or the next value is waited for. -/
theorem stage_of_complete? {r r' : Reader} {v : Toml} (h : complete? r v = some r') :
    r'.stage = .lineEnd ∨ r'.stage = .next := by
  unfold complete? at h
  split at h
  · obtain ⟨root, -, hr⟩ := Option.bind_eq_some_iff.mp h
    cases hr
    exact .inl rfl
  · cases h
    exact .inr rfl
  · obtain ⟨fields, -, hr⟩ := Option.bind_eq_some_iff.mp h
    cases hr
    exact .inr rfl
  · cases h

/-- Unless a scalar goes on, a lexeme is a step of its own. -/
theorem step?_of_complete? {r r' : Reader} {v : Toml} (h : complete? r v = some r') (x : Lexeme) :
    r'.step? x = r'.stepPlain? x := by
  unfold step?
  rcases stage_of_complete? h with hstage | hstage <;> rw [hstage]

end Reader

/-! ## Values -/

/-- What follows a value in a written document: the end of the line, or what goes on or ends a list. -/
inductive EndsValue : List Char → Prop where
  | lineBreak (rest : List Char) : EndsValue ('\n' :: rest)
  | comma (rest : List Char) : EndsValue (',' :: rest)
  | bracket (rest : List Char) : EndsValue (']' :: rest)

open Reader

theorem EndsValue.head? {rest : List Char} (h : EndsValue rest) :
    rest.head?.all (!Lexeme.isBare ·) ∧ rest.head? ≠ some '"' ∧ rest.head? ≠ some '\'' := by
  cases h <;> exact ⟨rfl, by simp, by simp⟩

/-- What ends a value is a lexeme that ends a scalar too. -/
theorem EndsValue.exists_lexeme {rest : List Char} (h : EndsValue rest) :
    ∃ (x : Lexeme) (t : List Char), (∀ r : Reader, r.after? rest = (r.step? x).bind (·.after? t)) ∧
      ∀ (r : Reader) (text : List Char), r.stage = .scalar text →
        r.step? x = (r.endScalar? text).bind (·.stepPlain? x) := by
  cases h with
  | lineBreak t =>
      exact ⟨.lineBreak, t, (after?_lineBreak · t), fun r text h => by unfold step?; rw [h]⟩
  | comma t =>
      exact ⟨.mark ',', t, (after?_mark · (by simp) t), fun r text h => by unfold step?; rw [h]; rfl⟩
  | bracket t =>
      exact ⟨.mark ']', t, (after?_mark · (by simp) t), fun r text h => by unfold step?; rw [h]; rfl⟩

/-- Whether a text is read as a value where one is waited for. -/
structure Writes (written : String) (v : Toml) : Prop where
  after?_append : ∀ (r : Reader) (rest : List Char), r.stage = .value → r.stack.length ≤ maxDepth →
    EndsValue rest → r.after? (written.toList ++ rest) = (r.complete? v).bind (·.after? rest)
  return_notMem : '\r' ∉ written.toList

theorem after?_string (s : String) {r : Reader} {rest : List Char} (hstage : r.stage = .value)
    (hrest : EndsValue rest) :
    r.after? ((writeString s).toList ++ rest) = (r.complete? (.string s)).bind (·.after? rest) := by
  obtain ⟨-, hdouble, hsingle⟩ := hrest.head?
  have hforms := Quoted.forms_write s.toList
  obtain ⟨x, hx, hlexeme⟩ := hforms.isWritten hdouble hsingle
  have hstep : r.step? x = r.complete? (.string s) := by
    rw [String.ofList_toList] at hlexeme
    obtain ⟨root, header, stack, stage⟩ := r
    cases hstage
    rcases hlexeme with rfl | rfl <;> rfl
  rw [writeString, String.toList_ofList, r.after?_append hforms.ne_nil hx, hstep]

theorem writes_string (s : String) : Writes (writeString s) (.string s) where
  after?_append _ _ hstage _ hrest := after?_string s hstage hrest
  return_notMem := by
    rw [writeString, String.toList_ofList]
    exact (Quoted.forms_write s.toList).return_notMem

/-- A run of bare characters that writes a value is read as it. -/
theorem writes_scalar {written : String} {v : Toml} (hne : written.toList ≠ [])
    (hrun : ∀ c ∈ written.toList, Lexeme.isBare c = true) (hv : scalar? written.toList = some v) :
    Writes written v where
  after?_append r rest hstage _ hrest := by
    generalize written.toList = run at hne hrun hv
    obtain ⟨x, t, hafter, hends⟩ := hrest.exists_lexeme
    have hlast : run.getLast? ≠ some ' ' := fun h =>
      absurd (hrun _ (List.mem_of_getLast? h)) (by decide)
    have hstart : r.step? (.bare run) = some { r with stage := .scalar run } := by
      obtain ⟨root, header, stack, stage⟩ := r
      cases hstage
      rfl
    -- The scalar is complete only at the lexeme that ends it, which is then a step of its own.
    rw [r.after?_bare hne hrun hrest.head?.1, hstart, Option.bind_some, hafter, hends _ run rfl,
      endScalar?, if_neg hlast, hv, Option.bind_some, complete?_stage]
    cases hcomplete : r.complete? v with
    | none => rfl
    | some r' => rw [Option.bind_some, Option.bind_some, hafter, step?_of_complete? hcomplete]
  return_notMem h := absurd (hrun _ h) (by decide)

theorem writes_bool (b : Bool) : Writes (writeBool b) (.bool b) := by
  cases b with
  | true => exact writes_scalar (by decide) (List.all_eq_true.mp rfl) rfl
  | false => exact writes_scalar (by decide) (List.all_eq_true.mp rfl) rfl

theorem writes_integer {n : Nat} (hn : integerInRange n = true) :
    Writes (toString n) (.integer n) := by
  have hdigits : (toString n).toList = Nat.toDigits 10 n := by
    rw [Nat.toString_eq_repr, Nat.toList_repr]
  refine writes_scalar (hdigits ▸ Nat.toDigits_ne_nil) (fun c hc => ?_) (hdigits ▸ scalar?_toDigits hn)
  simp [Lexeme.isBare, Char.isAlphanum, isDigit_of_mem (hdigits ▸ hc)]

/-! ## Lists -/

section

variable {root : Fields} {header : List String} {items : List Toml} {outer : List Open}

/-- After the bracket that ends a list. -/
theorem after?_endList {stage : Stage} (hstage : stage = .value ∨ stage = .next) (rest : List Char) :
    after? ⟨root, header, .array items :: outer, stage⟩ (']' :: rest) =
      (complete? ⟨root, header, outer, .value⟩ (.array false items.reverse)).bind (·.after? rest) := by
  rw [after?_mark _ (by simp), ← complete?_stage _ stage]
  rcases hstage with rfl | rfl <;> rfl

/-- A string in a list is one item more. -/
theorem after?_item (s : String) {rest : List Char} (hrest : EndsValue rest) :
    after? ⟨root, header, .array items :: outer, .value⟩ ((writeString s).toList ++ rest) =
      after? ⟨root, header, .array (.string s :: items) :: outer, .next⟩ rest := by
  rw [after?_string s rfl hrest]
  rfl

/-- In a list of several strings each of them has a line. -/
theorem after?_items (strings : List String) (rest : List Char) :
    after? ⟨root, header, .array items :: outer, .value⟩
        ((String.join (strings.map fun s => "    " ++ writeString s ++ ",\n")).toList ++ rest) =
      after? ⟨root, header, .array ((strings.map .string).reverse ++ items) :: outer, .value⟩
        rest := by
  -- The items read so far grow with the strings, so the induction is over all of them.
  induction strings generalizing items with
  | nil => rfl
  | cons s strings ih =>
      have hblank : ∀ rest, after? ⟨root, header, .array items :: outer, .value⟩ (' ' :: rest) =
          after? ⟨root, header, .array items :: outer, .value⟩ rest := after?_blank _
      have hend : ∀ rest, after? ⟨root, header, .array (.string s :: items) :: outer, .next⟩
          (',' :: '\n' :: rest) =
            after? ⟨root, header, .array (.string s :: items) :: outer, .value⟩ rest := fun rest => by
        rw [after?_mark _ (by simp)]
        exact after?_lineBreak _ rest
      have htext : (String.join ((s :: strings).map fun s => "    " ++ writeString s ++ ",\n")).toList ++
          rest = ' ' :: ' ' :: ' ' :: ' ' :: ((writeString s).toList ++ ',' :: '\n' ::
            ((String.join (strings.map fun s => "    " ++ writeString s ++ ",\n")).toList ++ rest)) := by
        simp
      rw [htext, hblank, hblank, hblank, hblank, after?_item s (.comma _), hend, ih, List.map_cons,
        List.reverse_cons, List.append_assoc, List.singleton_append]

theorem after?_openList (hdepth : outer.length ≤ maxDepth) (rest : List Char) :
    after? ⟨root, header, outer, .value⟩ ('[' :: rest) =
      after? ⟨root, header, .array [] :: outer, .value⟩ rest := by
  have hstep : step? ⟨root, header, outer, .value⟩ (.mark '[') =
      some ⟨root, header, .array [] :: outer, .value⟩ := if_pos hdepth
  rw [after?_mark _ (by simp), hstep, Option.bind_some]

end

theorem writes_strings (strings : List String) :
    Writes (writeStrings strings) (.array false (strings.map .string)) where
  after?_append r rest hstage hdepth hrest := by
    obtain ⟨root, header, stack, stage⟩ := r
    obtain rfl : stage = .value := hstage
    unfold writeStrings
    split
    · exact (after?_openList hdepth _).trans (after?_endList (.inl rfl) rest)
    · next s =>
      have htext : ("[" ++ writeString s ++ "]").toList ++ rest =
          '[' :: ((writeString s).toList ++ ']' :: rest) := by simp
      rw [htext, after?_openList hdepth, after?_item s (.bracket rest), after?_endList (.inr rfl)]
      rfl
    · generalize hlines : String.join _ = lines
      have htext : ("[\n" ++ lines ++ "]").toList ++ rest =
          '[' :: '\n' :: (lines.toList ++ ']' :: rest) := by simp
      have hbreak : ∀ rest, after? ⟨root, header, .array [] :: stack, .value⟩ ('\n' :: rest) =
          after? ⟨root, header, .array [] :: stack, .value⟩ rest := after?_lineBreak _
      rw [htext, after?_openList hdepth, hbreak, ← hlines, after?_items, after?_endList (.inl rfl),
        List.append_nil, List.reverse_reverse]
  return_notMem := by
    have hstring : ∀ s, '\r' ∉ (writeString s).toList := fun s => (writes_string s).return_notMem
    unfold writeStrings
    split <;> simp [hstring]

/-! ## Tables -/

section

variable {name : String} {fields : Fields}

theorem put_append (h : fields.lookup name = none) (v : Toml) (rest : Fields) :
    put name v (fields ++ rest) = fields ++ put name v rest := by
  induction fields with
  | nil => rfl
  | cons field fields ih =>
      obtain ⟨n, w⟩ := field
      rw [List.lookup_cons] at h
      cases hname : name == n with
      | true => simp [hname] at h
      | false =>
          rw [hname] at h
          rw [List.cons_append, put, if_neg fun heq => by simp [heq] at hname, ih h,
            List.cons_append]

/-- A value for a new name comes last. -/
theorem put_of_lookup_eq_none (h : fields.lookup name = none) (v : Toml) :
    put name v fields = fields ++ [(name, v)] := by
  simpa [put] using put_append h v []

theorem put_append_singleton (h : fields.lookup name = none) (v w : Toml) :
    put name w (fields ++ [(name, v)]) = fields ++ [(name, w)] := by
  simp [put_append h, put]

theorem lookup_append_singleton (h : fields.lookup name = none) (v : Toml) :
    (fields ++ [(name, v)]).lookup name = some v := by
  simp [List.lookup_append, h]

/-- A name that comes last and only once is new. -/
theorem lookup_eq_none_of_nodup {v : Toml} (h : ((fields ++ [(name, v)]).map Prod.fst).Nodup) :
    fields.lookup name = none := by
  rw [List.map_append, List.nodup_append] at h
  refine List.lookup_eq_none_iff.mpr fun field hfield => ?_
  have hne := h.2.2 field.1 (List.mem_map_of_mem hfield) name (by simp)
  simpa using hne.symm

theorem nodup_of_nodup_append {more : Fields} (h : ((fields ++ more).map Prod.fst).Nodup) :
    (fields.map Prod.fst).Nodup := by
  rw [List.map_append] at h
  exact (List.nodup_append.mp h).1

/-- A pair goes to the last table. -/
theorem insert?_last {key : String} {inner : Fields} (hname : fields.lookup name = none)
    (hkey : inner.lookup key = none) (v : Toml) :
    under? (insert? v [key]) [name] (fields ++ [(name, .table .header inner)]) =
      some (fields ++ [(name, .table .header (inner ++ [(key, v)]))]) := by
  simp [under?, insert?, lookup_append_singleton hname, hkey, put_append_singleton hname,
    put_of_lookup_eq_none hkey]

theorem header?_define? (hname : fields.lookup name = none) :
    header? define? [name] fields = some (fields ++ [(name, .table .header [])]) := by
  simp [header?, under?, define?, hname, put_of_lookup_eq_none hname]

end

/-! ## Lines -/

/-- Whether a key is written without quotes. -/
def isBareKey (key : String) : Bool :=
  !key.toList.isEmpty && key.toList.all fun c => c.isAlphanum || c == '_' || c == '-'

/-- A reader at the start of a line of the last table. -/
def Reader.inTable (fields : Fields) (name : String) (inner : Fields) : Reader where
  root := fields ++ [(name, .table .header inner)]
  header := [name]

theorem keyPart?_toList {key : String} (hkey : isBareKey key = true) :
    keyPart? (.bare key.toList) = some key := by
  rw [isBareKey, Bool.and_eq_true] at hkey
  rw [keyPart?, if_pos hkey.2, String.ofList_toList]

theorem after?_key {key : String} (hkey : isBareKey key = true) (r : Reader) {rest : List Char}
    (hrest : rest.head?.all (!Lexeme.isBare ·)) :
    r.after? (key.toList ++ rest) = (r.step? (.bare key.toList)).bind (·.after? rest) := by
  rw [isBareKey, Bool.and_eq_true, Bool.not_eq_true', List.isEmpty_eq_false_iff,
    List.all_eq_true] at hkey
  refine r.after?_bare hkey.1 (fun c hc => ?_) hrest
  have hc := hkey.2 c hc
  simp only [Bool.or_eq_true] at hc
  rcases hc with (hc | hc) | hc <;> simp [Lexeme.isBare, hc]

theorem notMem_key {key : String} (hkey : isBareKey key = true) : '\r' ∉ key.toList := by
  rw [isBareKey, Bool.and_eq_true, List.all_eq_true] at hkey
  exact fun h => absurd (hkey.2 _ h) (by decide)

/-- A header starts a table. -/
theorem after?_headerLine {name : String} (hkey : isBareKey name = true) {fields : Fields}
    (hname : fields.lookup name = none) (header : List String) (rest : List Char) :
    after? ⟨fields, header, [], .line⟩ ((headerLine name).toList ++ rest) =
      (inTable fields name []).after? rest := by
  have hstart : step? ⟨fields, header, [], .bracket⟩ (.bare name.toList) =
      some ⟨fields, header, [], .afterKey .header [name]⟩ := by
    show (keyPart? (.bare name.toList)).map _ = _
    rw [keyPart?_toList hkey]
    rfl
  have hend : step? ⟨fields, header, [], .afterKey .header [name]⟩ (.mark ']') =
      some { inTable fields name [] with stage := .lineEnd } := by
    show (header? define? [name] fields).bind _ = _
    rw [header?_define? hname]
    rfl
  simp only [headerLine, String.toList_append, List.append_assoc]
  show after? _ ('[' :: (name.toList ++ ']' :: '\n' :: rest)) = _
  rw [after?_mark _ (by simp)]
  show after? ⟨fields, header, [], .bracket⟩ _ = _
  rw [after?_key hkey _ rfl, hstart, Option.bind_some, after?_mark _ (by simp), hend,
    Option.bind_some, after?_lineBreak]
  rfl

/-- A pair adds its value to the last table. -/
theorem after?_pairLine {key written : String} {v : Toml} (hkey : isBareKey key = true)
    (hwritten : Writes written v) {fields inner : Fields} {name : String}
    (hname : fields.lookup name = none) (hnew : inner.lookup key = none) (rest : List Char) :
    (inTable fields name inner).after? ((pairLine key written).toList ++ rest) =
      (inTable fields name (inner ++ [(key, v)])).after? rest := by
  have hstart : step? (inTable fields name inner) (.bare key.toList) =
      some { inTable fields name inner with stage := .afterKey .pair [key] } := by
    show (keyPart? (.bare key.toList)).map _ = _
    rw [keyPart?_toList hkey]
    rfl
  have hvalue : complete? { inTable fields name inner with stack := [.pair [key]], stage := .value } v =
      some { inTable fields name (inner ++ [(key, v)]) with stage := .lineEnd } := by
    simp [complete?, inTable, insert?_last hname hnew]
  have htext : (pairLine key written).toList ++ rest =
      key.toList ++ ' ' :: '=' :: ' ' :: (written.toList ++ '\n' :: rest) := by
    simp [pairLine]
  rw [htext, after?_key hkey _ rfl, hstart, Option.bind_some, after?_blank]
  show after? _ ('=' :: _) = _
  rw [after?_mark _ (by simp)]
  show after? _ (' ' :: _) = _
  rw [after?_blank]
  show after? { inTable fields name inner with stack := [.pair [key]], stage := .value } _ = _
  rw [hwritten.after?_append _ _ rfl (by simp [maxDepth]) (.lineBreak rest), hvalue,
    Option.bind_some, after?_lineBreak]
  rfl

/-- Whether a text adds these pairs to the last table, if they are new there. -/
structure WritesPairs (written : String) (pairs : Fields) : Prop where
  after?_append : ∀ (fields inner : Fields) (name : String) (rest : List Char),
    fields.lookup name = none → ((inner ++ pairs).map Prod.fst).Nodup →
      (inTable fields name inner).after? (written.toList ++ rest) =
        (inTable fields name (inner ++ pairs)).after? rest
  return_notMem : '\r' ∉ written.toList

theorem writesPairs_nil : WritesPairs "" [] where
  after?_append _ inner _ _ _ _ := by simp
  return_notMem := by simp

theorem writesPairs_pairLine {key written : String} {v : Toml} (hkey : isBareKey key = true)
    (hwritten : Writes written v) : WritesPairs (pairLine key written) [(key, v)] where
  after?_append _ _ _ rest hname hnodup :=
    after?_pairLine hkey hwritten hname (lookup_eq_none_of_nodup hnodup) rest
  return_notMem := by simp [pairLine, notMem_key hkey, hwritten.return_notMem]

theorem writesPairs_pairLine? {α : Type} {key : String} {write : α → String} {value : α → Toml}
    (hkey : isBareKey key = true) (o : Option α) (hwrite : ∀ a ∈ o, Writes (write a) (value a)) :
    WritesPairs (pairLine? key write o) (o.toList.map fun a => (key, value a)) := by
  cases o with
  | none => exact writesPairs_nil
  | some a => exact writesPairs_pairLine hkey (hwrite a rfl)

theorem WritesPairs.append {written more : String} {pairs others : Fields}
    (h : WritesPairs written pairs) (hmore : WritesPairs more others) :
    WritesPairs (written ++ more) (pairs ++ others) where
  after?_append fields inner name rest hname hnodup := by
    rw [← List.append_assoc] at hnodup
    rw [String.toList_append, List.append_assoc,
      h.after?_append fields inner name _ hname (nodup_of_nodup_append hnodup),
      hmore.after?_append fields (inner ++ pairs) name rest hname hnodup, List.append_assoc]
  return_notMem := by simp [h.return_notMem, hmore.return_notMem]

/-! ## Documents -/

/-- Whether a text adds these tables to a document, if they are new there. -/
structure WritesTables (written : String) (tables : Fields) : Prop where
  after?_append : ∀ (fields : Fields) (header : List String) (rest : List Char),
    ((fields ++ tables).map Prod.fst).Nodup →
      ∃ header', after? ⟨fields, header, [], .line⟩ (written.toList ++ rest) =
        after? ⟨fields ++ tables, header', [], .line⟩ rest
  return_notMem : '\r' ∉ written.toList
  head?_ne : written.toList.head? ≠ some '\ufeff'

/-- A header and the pairs under it are a table. -/
theorem WritesPairs.table {written name : String} {pairs : Fields} (h : WritesPairs written pairs)
    (hkey : isBareKey name = true) (hnodup : (pairs.map Prod.fst).Nodup) :
    WritesTables (headerLine name ++ written) [(name, .table .header pairs)] where
  after?_append fields header rest hnames := by
    have hname := lookup_eq_none_of_nodup hnames
    refine ⟨[name], ?_⟩
    rw [String.toList_append, List.append_assoc, after?_headerLine hkey hname,
      h.after?_append fields [] name rest hname hnodup]
    rfl
  return_notMem := by simp [headerLine, notMem_key hkey, h.return_notMem]
  head?_ne := by simp [headerLine]

/-- Tables may have an empty line between them. -/
theorem WritesTables.append {written more : String} {tables others : Fields}
    (h : WritesTables written tables) (hmore : WritesTables more others) :
    WritesTables (written ++ ("\n" ++ more)) (tables ++ others) where
  after?_append fields header rest hnames := by
    rw [← List.append_assoc] at hnames
    obtain ⟨header', hread⟩ := h.after?_append fields header ('\n' :: (more.toList ++ rest))
      (nodup_of_nodup_append hnames)
    obtain ⟨header'', hreadMore⟩ := hmore.after?_append (fields ++ tables) header' rest hnames
    refine ⟨header'', ?_⟩
    have hempty : ∀ rest, after? ⟨fields ++ tables, header', [], .line⟩ ('\n' :: rest) =
        after? ⟨fields ++ tables, header', [], .line⟩ rest := after?_lineBreak _
    rw [← List.append_assoc, ← hreadMore, ← hempty, ← hread]
    simp
  return_notMem := by simp [h.return_notMem, hmore.return_notMem]
  head?_ne := by
    rw [String.toList_append]
    cases hwritten : written.toList with
    | nil => simp
    | cons c text => simpa [hwritten] using h.head?_ne

/-- A text of tables is a document. -/
theorem WritesTables.read?_eq {written : String} {tables : Fields} (h : WritesTables written tables)
    (hnames : (tables.map Prod.fst).Nodup) : read? written = some tables := by
  have hall : Lexeme.all? written.toList = Lexeme.allFrom? 0 written.toList := by
    unfold Lexeme.all?
    split
    · next rest heq => exact absurd (by rw [heq]; rfl) h.head?_ne
    · exact if_pos (Lexeme.breaksPaired_of_notMem h.return_notMem)
  obtain ⟨header, hread⟩ := h.after?_append [] [] [] hnames
  rw [List.append_nil, after?_nil] at hread
  obtain ⟨lexemes, hlexemes, hread⟩ := Option.bind_eq_some_iff.mp hread
  simp [read?, hall, hlexemes, hread, finish?]

end RecordQuery.Toml
