import RecordQuery.Settings.Basic

/-!
# Layers of settings

A layer defines some of the settings. Laid over others it decides those that it defines and leaves
the rest, each on its own; a list of keys is replaced as a whole.
-/

namespace RecordQuery

/-- Some of the rules for reading queries. -/
structure RuleLayer where
  validKeys : Option (List String) := none
  defaultKey : Option String := none
  strictLiterals : Option Bool := none
  dropZeroValues : Option Bool := none
  maxQueryLength : Option Nat := none
  deriving DecidableEq, Repr

/-- The rules with those of the layer over them. -/
def RuleLayer.override (layer : RuleLayer) (rules : Rules) : Rules where
  validKeys := layer.validKeys <|> rules.validKeys
  defaultKey := layer.defaultKey <|> rules.defaultKey
  strictLiterals := layer.strictLiterals.getD rules.strictLiterals
  dropZeroValues := layer.dropZeroValues.getD rules.dropZeroValues
  maxQueryLength := layer.maxQueryLength <|> rules.maxQueryLength

/-- Some of the settings for searching records. -/
structure FilterLayer where
  caseSensitive : Option Bool := none
  deriving DecidableEq, Repr

/-- What a settings file says: whether it is the root of a project, and its sections, each of which
may be absent. -/
structure SettingsFile where
  root : Option Bool := none
  parser : Option RuleLayer := none
  filter : Option FilterLayer := none
  deriving DecidableEq, Repr

namespace SettingsFile

/-- The settings with those of the file over them. -/
def override (f : SettingsFile) (s : Settings) : Settings where
  rules := (f.parser.getD {}).override s.rules
  caseSensitive := (f.filter.bind (·.caseSensitive)).getD s.caseSensitive

end SettingsFile

/-- The settings of several files, of which the first lies over the others. -/
def Settings.ofFiles (files : List SettingsFile) : Settings :=
  files.foldr SettingsFile.override {}

/-- Of two files the first decides. -/
theorem Settings.ofFiles_cons (f : SettingsFile) (files : List SettingsFile) :
    Settings.ofFiles (f :: files) = f.override (Settings.ofFiles files) := rfl

end RecordQuery
