import RecordQuery.Command.Invocation
import RecordQuery.Json.Reader
import RecordQuery.Json.Writer
import RecordQuery.Query.Document
import RecordQuery.Record.Filter
import RecordQuery.Settings.Discovery
import RecordQuery.Settings.File

/-!
# Running commands

What a command prints, and its exit code, as a function of the command and of what it finds around
it. Where the reason of an error is not this library's to word, the error text ends before it.
-/

namespace RecordQuery

/-- What a command finds around it. -/
structure Surroundings where
  files : FileSystem
  /-- The working directory. -/
  directory : Path
  home : Option Path
  input : Except ReadFailure String

namespace Surroundings

/-- The user's own settings file. -/
def globalFile (s : Surroundings) : Option Path := s.home.map (SettingsFile.fileName :: ·)

def settingsFiles (s : Surroundings) : List Path :=
  SettingsFile.discover s.files s.directory s.globalFile

end Surroundings

/-- A time in milliseconds, as text and as JSON. -/
structure Elapsed where
  text : String
  json : Json

/-- The time of so many nanoseconds: three decimals as text. -/
def Elapsed.ofNanos (n : Nat) : Elapsed :=
  let micros := (n + 500) / 1000
  let decimals := Nat.toDigits 10 (micros % 1000)
  { text := toString (micros / 1000) ++ "." ++
      String.ofList (List.replicate (3 - decimals.length) '0' ++ decimals)
    json := .number (.float (.real false (Magnitude.ofQuotient n 1000000))) }

/-- What a command leaves behind. -/
structure Transcript where
  exitCode : Nat
  output : String
  errors : String
  deriving DecidableEq, Repr

namespace Transcript

def success (output errors : String) : Transcript := ⟨0, output, errors⟩

def failure (output errors : String) : Transcript := ⟨1, output, errors⟩

end Transcript

namespace Command

def unlines (lines : List String) : String := String.join (lines.map (· ++ "\n"))

/-- One query for all of several: each in a group of its own, and any of them is enough. -/
def combine : List String → String
  | [query] => query
  | queries => " OR ".intercalate (queries.map fun q => "(" ++ q ++ ")")

def runParse (settings : Settings) (verbose : Bool) (elapsed : Elapsed) (queries : List String)
    (rules : RuleLayer) (json : Bool) : Transcript :=
  let parsed := Parsed.ofQuery (rules.override settings.rules) (combine queries)
  let exitCode := if parsed.hasProblems then 1 else 0
  if json then ⟨exitCode, (parsed.toJson elapsed.json).pretty ++ "\n", ""⟩
  else
    ⟨exitCode, parsed.summary (if verbose then some elapsed.text else none), unlines parsed.reports⟩

/-- The JSON of a file, or of the standard input, or the error text. -/
def readInput (s : Surroundings) : (file : Option String) → Except String Json
  | some name => do
    let text ← match (s.files (Path.ofText s.directory name)).text with
      | .ok text => .ok text
      | .error failure =>
        .error ("error: failed to read " ++ name ++ ": " ++ failure.message ++ "\n")
    decode name text
  | none => do
    let text ← match s.input with
      | .ok text => .ok text
      | .error failure => .error ("error: failed to read stdin: " ++ failure.message ++ "\n")
    decode "stdin" text
where
  decode (source text : String) : Except String Json :=
    match Json.read? text with
    | some v => .ok v
    | none => .error ("error: invalid JSON in " ++ source ++ ": ")

/-- The records that a prepared query keeps, written, or the error text. -/
def filterRecords (s : Surroundings) (caseSensitive json : Bool) (parsed : Parsed)
    (file : Option String) : Except String String := do
  let f ← match RecordFilter.ofParsed caseSensitive parsed with
    | .ok f => .ok f
    | .error e => .error ("error: " ++ e.message)
  let input ← readInput s file
  let records ← match f.applyTo input with
    | .ok records => .ok records
    | .error e => .error ("error: " ++ e.message ++ "\n")
  return if json then (Json.array records).pretty ++ "\n" else unlines (records.map Json.compact)

def runFilter (s : Surroundings) (settings : Settings) (query : String) (file : Option String)
    (rules : RuleLayer) (caseSensitive json : Bool) : Transcript :=
  let parsed := Parsed.ofQuery (rules.override settings.rules) query
  let reports := unlines parsed.reports
  match filterRecords s (caseSensitive || settings.caseSensitive) json parsed file with
  | .ok output => .success output reports
  | .error text => .failure "" (reports ++ text)

def runConfig (s : Surroundings) (settings : Settings) : Transcript :=
  let describe (p : Path) : String :=
    "#   " ++ p.display ++ if s.globalFile = some p then " (global)" else ""
  let heading := match s.settingsFiles with
    | [] => ["# No configuration files found; using defaults."]
    | files => "# Config files (highest precedence first):" :: files.map describe
  .success (unlines heading ++ "\n" ++ settings.document)
    (unlines (settings.warnings.map fun w => "warning: " ++ w.message))

end Command

namespace Invocation

/-- The file that the command reads, if it names one. -/
def file? (i : Invocation) : Option String :=
  match i.command with
  | .filter _ file _ _ _ => file
  | _ => none

/-- Whether the command reads the standard input. -/
def readsInput (i : Invocation) : Bool :=
  match i.command with
  | .filter _ none _ _ _ => true
  | _ => false

/-- Runs the command, under the settings of the files that apply; `elapsed` is the time it took to
read a query. -/
def run (i : Invocation) (s : Surroundings) (elapsed : Elapsed) : Transcript :=
  match Settings.load s.files s.settingsFiles with
  | .error e => .failure "" ("error: failed to load configuration: " ++ e.message ++ e.reason)
  | .ok settings =>
    match i.command with
    | .parse queries rules json =>
      Command.runParse settings (0 < i.verbosity) elapsed queries rules json
    | .filter query file rules caseSensitive json =>
      Command.runFilter s settings query file rules caseSensitive json
    | .config => Command.runConfig s settings

end Invocation

end RecordQuery
