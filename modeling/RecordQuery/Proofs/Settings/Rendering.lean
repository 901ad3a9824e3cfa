import RecordQuery.Proofs.Settings.Precedence
import RecordQuery.Proofs.Toml.Document
import RecordQuery.Settings.Discovery
import RecordQuery.Settings.File

/-!
# Settings written and read back

The document of settings defines all that have a value, so it is read back as the settings. This needs
that their numbers can be read, and those of settings that were loaded from files can.
-/

namespace RecordQuery

open Toml

namespace SettingsFile

/-! ## Values of settings -/

theorem strings?_map (strings : List String) :
    strings? (.array false (strings.map .string)) = some strings := by
  show (strings.map Toml.string).mapM string? = _
  rw [List.mapM_map]
  exact List.mapM_pure.trans (by simp)

theorem length?_integer {n : Nat} (h : n ≤ 0xFFFFFFFFFFFFFFFF) : length? (.integer n) = some n := by
  simp [length?]
  omega

theorem setting?_eq_some {α : Type} {read? : Toml → Option α} {name : String} {fields : Toml.Fields}
    {a : α} (h : setting? read? name fields = some (some a)) :
    ∃ v, read? v = some a := by
  unfold setting? at h
  split at h
  · next v _ => exact ⟨v, by simpa using h⟩
  · cases h

theorem le_of_length? {v : Toml} {n : Nat} (h : length? v = some n) : n ≤ 0xFFFFFFFFFFFFFFFF := by
  cases v with
  | integer m =>
      simp only [length?, Option.ite_none_right_eq_some, Option.some.injEq] at h
      obtain ⟨hm, rfl⟩ := h
      simp at hm
      omega
  | _ => cases h

/-- A length in a settings file has at most 64 bits. -/
theorem le_of_read? {text : String} {f : SettingsFile} {layer : RuleLayer} {n : Nat}
    (hread : read? text = some f) (hlayer : f.parser = some layer)
    (hn : layer.maxQueryLength = some n) : n ≤ 0xFFFFFFFFFFFFFFFF := by
  obtain ⟨fields, -, hfields⟩ := Option.bind_eq_some_iff.mp hread
  simp only [ofFields?, bind, Option.bind_eq_some_iff, pure, Option.some.injEq] at hfields
  obtain ⟨root, -, parser, hparser, filter, -, rfl⟩ := hfields
  subst hlayer
  obtain ⟨v, hv⟩ := setting?_eq_some hparser
  simp only [parser?, bind, Option.bind_eq_some_iff, pure, Option.some.injEq] at hv
  obtain ⟨pairs, -, keys, -, key, -, literals, -, zeros, -, length, hlength, rfl⟩ := hv
  subst hn
  obtain ⟨w, hw⟩ := setting?_eq_some hlength
  exact le_of_length? hw

end SettingsFile

namespace Settings

/-! ## Lines and pairs -/

/-- The pairs of the rules for reading queries. -/
def parserPairs (r : Rules) : Toml.Fields :=
  r.validKeys.toList.map (fun keys => ("valid_keys", .array false (keys.map .string))) ++
    r.defaultKey.toList.map (fun key => ("default_key", .string key)) ++
    [("strict_literals", .bool r.strictLiterals)] ++ [("drop_zero_values", .bool r.dropZeroValues)] ++
    r.maxQueryLength.toList.map fun n => ("max_query_length", .integer n)

/-- The lines of the rules for reading queries. -/
def parserLines (r : Rules) : String :=
  pairLine? "valid_keys" writeStrings r.validKeys ++ pairLine? "default_key" writeString r.defaultKey ++
    pairLine "strict_literals" (writeBool r.strictLiterals) ++
    pairLine "drop_zero_values" (writeBool r.dropZeroValues) ++
    pairLine? "max_query_length" toString r.maxQueryLength

variable {r : Rules} {s : Settings}

/-- The length of queries, if there is one, has at most 64 bits. -/
def LengthFits (r : Rules) : Prop := ∀ n ∈ r.maxQueryLength, n ≤ 0xFFFFFFFFFFFFFFFF

theorem writesPairs_parserLines (hlength : LengthFits r) :
    WritesPairs (parserLines r) (parserPairs r) := by
  have hnumber : ∀ n ∈ r.maxQueryLength, Writes (toString n) (.integer n) := by
    intro n hn
    have hle := hlength n hn
    exact writes_integer (by simp [integerInRange]; omega)
  have hkeys : WritesPairs (pairLine? "valid_keys" writeStrings r.validKeys) _ :=
    writesPairs_pairLine? rfl _ fun keys _ => writes_strings keys
  have hkey : WritesPairs (pairLine? "default_key" writeString r.defaultKey) _ :=
    writesPairs_pairLine? rfl _ fun key _ => writes_string key
  have hliterals : WritesPairs (pairLine "strict_literals" (writeBool r.strictLiterals)) _ :=
    writesPairs_pairLine rfl (writes_bool _)
  have hzeros : WritesPairs (pairLine "drop_zero_values" (writeBool r.dropZeroValues)) _ :=
    writesPairs_pairLine rfl (writes_bool _)
  have hlast : WritesPairs (pairLine? "max_query_length" toString r.maxQueryLength) _ :=
    writesPairs_pairLine? rfl _ hnumber
  exact (((hkeys.append hkey).append hliterals).append hzeros).append hlast

/-- No name comes twice. -/
theorem nodup_parserPairs (r : Rules) : ((parserPairs r).map Prod.fst).Nodup := by
  obtain ⟨validKeys, defaultKey, strictLiterals, dropZeroValues, maxQueryLength⟩ := r
  cases validKeys <;> cases defaultKey <;> cases maxQueryLength <;> simp [parserPairs]

theorem document_eq (s : Settings) :
    s.document = (headerLine "parser" ++ parserLines s.rules) ++ ("\n" ++
      (headerLine "filter" ++ pairLine "case_sensitive" (writeBool s.caseSensitive))) := by
  simp only [document, parserLines, String.append_assoc]

/-- The document is read as a table for each section. -/
theorem read?_document (hlength : LengthFits s.rules) :
    Toml.read? s.document = some [("parser", .table .header (parserPairs s.rules)),
      ("filter", .table .header [("case_sensitive", .bool s.caseSensitive)])] := by
  have hparser : WritesTables (headerLine "parser" ++ parserLines s.rules)
      [("parser", .table .header (parserPairs s.rules))] :=
    (writesPairs_parserLines hlength).table rfl (nodup_parserPairs s.rules)
  have hfilter : WritesTables
      (headerLine "filter" ++ pairLine "case_sensitive" (writeBool s.caseSensitive))
      [("filter", .table .header [("case_sensitive", .bool s.caseSensitive)])] :=
    (writesPairs_pairLine rfl (writes_bool s.caseSensitive)).table rfl (by simp)
  have htables := hparser.append hfilter
  rw [← document_eq] at htables
  exact htables.read?_eq (by simp)

/-! ## The file -/

/-- The rules as a layer that decides all of them that have a value. -/
def asLayer (r : Rules) : RuleLayer where
  validKeys := r.validKeys
  defaultKey := r.defaultKey
  strictLiterals := some r.strictLiterals
  dropZeroValues := some r.dropZeroValues
  maxQueryLength := r.maxQueryLength

def asFile (s : Settings) : SettingsFile where
  parser := some (asLayer s.rules)
  filter := some { caseSensitive := some s.caseSensitive }

theorem ofFiles_asFile (s : Settings) : ofFiles [s.asFile] = s := by
  obtain ⟨⟨validKeys, defaultKey, strictLiterals, dropZeroValues, maxQueryLength⟩, caseSensitive⟩ := s
  cases validKeys <;> cases defaultKey <;> cases maxQueryLength <;> rfl

theorem parser?_parserPairs (hlength : LengthFits r) :
    SettingsFile.parser? (.table .header (parserPairs r)) = some (asLayer r) := by
  have hnumber : ∀ n ∈ r.maxQueryLength, SettingsFile.length? (.integer n) = some n :=
    fun n hn => SettingsFile.length?_integer (hlength n hn)
  obtain ⟨validKeys, defaultKey, strictLiterals, dropZeroValues, maxQueryLength⟩ := r
  cases validKeys <;> cases defaultKey <;> cases maxQueryLength <;>
    simp_all [SettingsFile.parser?, SettingsFile.section?, SettingsFile.setting?, parserPairs,
      List.lookup_cons, SettingsFile.string?, SettingsFile.bool?, SettingsFile.strings?_map, asLayer]

/-- The document is read as the file that defines the settings. -/
theorem fileOfText_document (hlength : LengthFits s.rules) (path : String) :
    fileOfText path s.document = .ok s.asFile := by
  have hfields : SettingsFile.read? s.document = some s.asFile := by
    rw [SettingsFile.read?, read?_document hlength, Option.bind_some]
    simp [SettingsFile.ofFields?, SettingsFile.setting?, List.lookup_cons, SettingsFile.filter?,
      SettingsFile.section?, SettingsFile.bool?, parser?_parserPairs hlength, asFile]
  rw [fileOfText, hfields]

/-! ## Loaded settings -/

theorem exists_of_mapM {α β ε : Type} {read : α → Except ε β} {paths : List α} {files : List β}
    (h : paths.mapM read = .ok files) : ∀ f ∈ files, ∃ p ∈ paths, read p = .ok f := by
  induction paths generalizing files with
  | nil =>
      cases h
      simp
  | cons p rest ih =>
      rw [List.mapM_cons] at h
      cases hp : read p with
      | error e => simp [hp, bind, Except.bind] at h
      | ok f =>
          cases hrest : rest.mapM read with
          | error e => simp [hp, hrest, bind, Except.bind] at h
          | ok others =>
              obtain rfl : f :: others = files := by
                simpa [hp, hrest, bind, Except.bind, pure, Except.pure] using h
              intro g hg
              rcases List.mem_cons.mp hg with rfl | hg
              · exact ⟨p, List.mem_cons_self, hp⟩
              · obtain ⟨q, hq, hread⟩ := ih hrest g hg
                exact ⟨q, List.mem_cons_of_mem _ hq, hread⟩

theorem exists_of_fileAt {fs : FileSystem} {p : Path} {f : SettingsFile} (h : fileAt fs p = .ok f) :
    ∃ text, SettingsFile.read? text = some f := by
  unfold fileAt fileOfText at h
  split at h
  · next text _ =>
    refine ⟨text, ?_⟩
    split at h
    · next hread => rw [hread, Except.ok.inj h]
    · cases h
  · cases h

/-- A length that was loaded has at most 64 bits. -/
theorem lengthFits_of_load {fs : FileSystem} {paths : List Path} (h : load fs paths = .ok s) :
    LengthFits s.rules := by
  intro n hn
  cases hfiles : paths.mapM (fileAt fs) with
  | error e => simp [load, hfiles, bind, Except.bind] at h
  | ok files =>
      obtain rfl : ofFiles files = s := by
        simpa [load, hfiles, bind, Except.bind, pure, Except.pure] using h
      -- The length comes from the first of the files that define it.
      rw [Option.mem_def, SettingsFile.decides_maxQueryLength.get_ofFiles] at hn
      cases hfirst : SettingsFile.firstDefined (·.maxQueryLength) files with
      | none => simp [hfirst] at hn
      | some m =>
          obtain rfl : m = n := by simpa [hfirst] using hn
          obtain ⟨f, hf, hm⟩ := List.exists_of_findSome?_eq_some hfirst
          obtain ⟨layer, hlayer, hlength⟩ := Option.bind_eq_some_iff.mp hm
          obtain ⟨p, -, hp⟩ := exists_of_mapM hfiles f hf
          obtain ⟨text, htext⟩ := exists_of_fileAt hp
          exact SettingsFile.le_of_read? htext hlayer hlength

end Settings

/-- **Settings load back from their document.** Whatever settings were loaded from files, the document of
them is a settings file, and loaded alone that file gives the same settings. -/
theorem Settings.load_document {fs : FileSystem} {paths : List Path} {s : Settings}
    (h : load fs paths = .ok s) (path : String) :
    (fileOfText path s.document).map (fun f => ofFiles [f]) = .ok s := by
  rw [fileOfText_document (lengthFits_of_load h), Except.map, ofFiles_asFile]

/-- Keys with quotes, a backslash, a line break and a control character, and the greatest length. -/
theorem Settings.load_document_escapes :
    let text := "[parser]\nvalid_keys = [\"it's\", '''C:\\'\"''', \"a\\nb\\u0000\"]\n" ++
      "default_key = 'back\\slash'\nmax_query_length = 0xFFFFFFFFFFFFFFFF\n"
    let fs := FileTree.entry ⟨[([SettingsFile.fileName], text)], []⟩
    let s : Settings := {
      rules := {
        validKeys := some ["it's", "C:\\'\"", "a\nb\x00"]
        defaultKey := some "back\\slash"
        maxQueryLength := some 0xFFFFFFFFFFFFFFFF } }
    load fs [[SettingsFile.fileName]] = .ok s ∧
      (fileOfText "/again.toml" s.document).map (fun f => ofFiles [f]) = .ok s := by
  intro text fs s
  have hload : load fs [[SettingsFile.fileName]] = .ok s := by decide +kernel
  exact ⟨hload, load_document hload "/again.toml"⟩

end RecordQuery
