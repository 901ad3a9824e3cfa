import RecordQuery.Settings.Layer
import RecordQuery.Toml.Document

/-!
# Settings files

A settings file is a TOML document. Names that are no settings are passed over, but a setting has to
have a value of its type. The settings in effect are written as a settings file that defines them.
-/

namespace RecordQuery

namespace SettingsFile

/-! ## Types of values -/

def bool? : Toml → Option Bool
  | .bool b => some b
  | _ => none

def string? : Toml → Option String
  | .string s => some s
  | _ => none

/-- A list of strings; a string alone is a list of one. -/
def strings? : Toml → Option (List String)
  | .string s => some [s]
  | .array _ items => items.mapM string?
  | _ => none

/-- A length is a whole number of at most 64 bits. -/
def length? : Toml → Option Nat
  | .integer n => if 0 ≤ n && n ≤ 0xFFFFFFFFFFFFFFFF then some n.toNat else none
  | _ => none

/-! ## Sections -/

/-- The settings of a section that has these names: by name in a table, in their order in an array.
A date or time is a section without settings. -/
def section? (names : List String) : Toml → Option Toml.Fields
  | .table _ fields => some fields
  | .array _ items => some (names.zip items)
  | .moment _ => some []
  | _ => none

/-- The setting of a name: none if it is not defined, and no result if it has another type. -/
def setting? (read? : Toml → Option α) (name : String) (fields : Toml.Fields) :
    Option (Option α) :=
  match fields.lookup name with
  | some v => (read? v).map some
  | none => some none

def parserNames : List String :=
  ["valid_keys", "default_key", "strict_literals", "drop_zero_values", "max_query_length"]

def parser? (v : Toml) : Option RuleLayer := do
  let fields ← section? parserNames v
  return { validKeys := ← setting? strings? "valid_keys" fields
           defaultKey := ← setting? string? "default_key" fields
           strictLiterals := ← setting? bool? "strict_literals" fields
           dropZeroValues := ← setting? bool? "drop_zero_values" fields
           maxQueryLength := ← setting? length? "max_query_length" fields }

def filter? (v : Toml) : Option FilterLayer := do
  let fields ← section? ["case_sensitive"] v
  return { caseSensitive := ← setting? bool? "case_sensitive" fields }

/-- What a document says about the settings. -/
def ofFields? (fields : Toml.Fields) : Option SettingsFile := do
  return { root := ← setting? bool? "root" fields
           parser := ← setting? parser? "parser" fields
           filter := ← setting? filter? "filter" fields }

/-- The settings file of this text. -/
def read? (text : String) : Option SettingsFile := (Toml.read? text).bind ofFields?

end SettingsFile

/-! ## Writing -/

/-- The settings as a settings file. -/
def Settings.document (s : Settings) : String :=
  Toml.headerLine "parser" ++
    Toml.pairLine? "valid_keys" Toml.writeStrings s.rules.validKeys ++
    Toml.pairLine? "default_key" Toml.writeString s.rules.defaultKey ++
    Toml.pairLine "strict_literals" (Toml.writeBool s.rules.strictLiterals) ++
    Toml.pairLine "drop_zero_values" (Toml.writeBool s.rules.dropZeroValues) ++
    Toml.pairLine? "max_query_length" toString s.rules.maxQueryLength ++
    "\n" ++
    Toml.headerLine "filter" ++
    Toml.pairLine "case_sensitive" (Toml.writeBool s.caseSensitive)

end RecordQuery
