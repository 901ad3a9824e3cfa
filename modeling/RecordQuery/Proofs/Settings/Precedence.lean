import RecordQuery.Command.Invocation

/-!
# Which layer decides a rule

The command line lies over the settings files, and each file over those that come after it. So every
rule for reading queries is decided on its own: by the command line if it gives the rule, else by the
first file that does. What the layers under that one say about the rule makes no difference.
-/

namespace RecordQuery

variable {α β : Type}

namespace SettingsFile

/-- What the first of the files that define a rule says about it. -/
def firstDefined (rule : RuleLayer → Option β) (files : List SettingsFile) : Option β :=
  files.findSome? fun f => f.parser.bind rule

/-- A rule that every layer decides on its own, and that a layer may leave open: what a layer says goes
over what was there. -/
structure Decides (rule : RuleLayer → Option β) (get : Rules → α) (put : β → α) : Prop where
  get_override : ∀ layer rules, get (layer.override rules) = (rule layer).elim (get rules) put
  rule_empty : rule {} = none

variable {rule : RuleLayer → Option β} {get : Rules → α} {put : β → α}

theorem Decides.get_file (h : Decides rule get put) (f : SettingsFile) (s : Settings) :
    get (f.override s).rules = (f.parser.bind rule).elim (get s.rules) put := by
  show get ((f.parser.getD {}).override s.rules) = _
  rw [h.get_override]
  cases f.parser with
  | none => rw [Option.getD_none, h.rule_empty]; rfl
  | some layer => rfl

/-- Of several files the first that defines the rule decides it. -/
theorem Decides.get_ofFiles (h : Decides rule get put) (files : List SettingsFile) :
    get (Settings.ofFiles files).rules = (firstDefined rule files).elim (get {}) put := by
  induction files with
  | nil => rfl
  | cons f rest ih =>
      rw [Settings.ofFiles_cons, h.get_file, firstDefined, List.findSome?_cons]
      cases f.parser.bind rule with
      | none => exact ih
      | some v => rfl

/-- A layer over the files decides the rule if it defines it. -/
theorem Decides.get_override_ofFiles (h : Decides rule get put) (layer : RuleLayer)
    (files : List SettingsFile) :
    get (layer.override (Settings.ofFiles files).rules) =
      ((rule layer).or (firstDefined rule files)).elim (get {}) put := by
  rw [h.get_override, h.get_ofFiles]
  cases rule layer <;> rfl

/-- The same for a rule that always has a value. -/
theorem Decides.given_override_ofFiles {get : Rules → β} (h : Decides rule get id)
    (layer : RuleLayer) (files : List SettingsFile) :
    get (layer.override (Settings.ofFiles files).rules) =
      ((rule layer).or (firstDefined rule files)).getD (get {}) := by
  rw [h.get_override_ofFiles]
  cases (rule layer).or (firstDefined rule files) <;> rfl

/-- The same for a rule that may be absent, and is if nothing defines it. -/
theorem Decides.absent_override_ofFiles {get : Rules → Option β} (h : Decides rule get some)
    (habsent : get {} = none) (layer : RuleLayer) (files : List SettingsFile) :
    get (layer.override (Settings.ofFiles files).rules) =
      (rule layer).or (firstDefined rule files) := by
  rw [h.get_override_ofFiles, habsent]
  cases (rule layer).or (firstDefined rule files) <;> rfl

theorem decides_validKeys : Decides (·.validKeys) (·.validKeys) some where
  get_override layer _ := by cases h : layer.validKeys <;> simp [RuleLayer.override, h]
  rule_empty := rfl

theorem decides_defaultKey : Decides (·.defaultKey) (·.defaultKey) some where
  get_override layer _ := by cases h : layer.defaultKey <;> simp [RuleLayer.override, h]
  rule_empty := rfl

theorem decides_strictLiterals : Decides (·.strictLiterals) (·.strictLiterals) id where
  get_override layer _ := by cases h : layer.strictLiterals <;> simp [RuleLayer.override, h]
  rule_empty := rfl

theorem decides_dropZeroValues : Decides (·.dropZeroValues) (·.dropZeroValues) id where
  get_override layer _ := by cases h : layer.dropZeroValues <;> simp [RuleLayer.override, h]
  rule_empty := rfl

theorem decides_maxQueryLength : Decides (·.maxQueryLength) (·.maxQueryLength) some where
  get_override layer _ := by cases h : layer.maxQueryLength <;> simp [RuleLayer.override, h]
  rule_empty := rfl

end SettingsFile

open SettingsFile

/-- **Which layer decides a rule.** Under the options of a command line and any settings files, the first
of them having precedence, each rule is the one that the command line gives, if it gives one, else the one
that the first file gives which defines it, else the one in effect without any settings. -/
theorem Invocation.Draft.override_ofFiles (d : Draft) (files : List SettingsFile) :
    let effective := d.rules.override (Settings.ofFiles files).rules
    effective.validKeys =
        (if d.validKeys = [] then firstDefined (·.validKeys) files else some d.validKeys) ∧
      effective.defaultKey = d.defaultKey.or (firstDefined (·.defaultKey) files) ∧
      effective.strictLiterals =
        (if "strict" ∈ d.flags then true else (firstDefined (·.strictLiterals) files).getD false) ∧
      effective.dropZeroValues = (firstDefined (·.dropZeroValues) files).getD false ∧
      effective.maxQueryLength = d.maxLength.or (firstDefined (·.maxQueryLength) files) := by
  refine ⟨?_, decides_defaultKey.absent_override_ofFiles rfl d.rules files, ?_,
    decides_dropZeroValues.given_override_ofFiles d.rules files,
    decides_maxQueryLength.absent_override_ofFiles rfl d.rules files⟩
  · rw [decides_validKeys.absent_override_ofFiles rfl d.rules files]
    by_cases h : d.validKeys = [] <;> simp [rules, h]
  · rw [decides_strictLiterals.given_override_ofFiles d.rules files]
    by_cases h : "strict" ∈ d.flags <;> simp [rules, h]

/-- A list without keys is a definition of the keys. -/
example :
    firstDefined (·.validKeys) [⟨some true, none, none⟩, ⟨none, some { validKeys := some [] }, none⟩,
      ⟨none, some { validKeys := some ["title"] }, none⟩] = some [] := by
  decide

end RecordQuery
