import RecordQuery.Command.Run

/-!
# The program

Reads what a command may need, runs it, and prints what it leaves behind.
-/

namespace RecordQuery

def usage : String :=
  "usage: parse [OPTION]... QUERY... | filter [OPTION]... QUERY [FILE] | config\n" ++
  "options: --valid-key KEY, --default-key KEY, --strict, --max-length CHARS, --json,\n" ++
  "  --case-sensitive (filter only), -v, --verbose, -h, --help\n"

def textOf (bytes : ByteArray) : Except ReadFailure String :=
  match String.fromUTF8? bytes with
  | some text => .ok text
  | none => .error .notText

/-- What stands at a path. -/
def entryAt (p : Path) : IO Entry := do
  match ← (IO.FS.readBinFile p.display).toBaseIO with
  | .ok bytes => return .file (textOf bytes)
  | .error (.permissionDenied ..) => return .file (.error .forbidden)
  | .error (.inappropriateType _ code _) =>
    return .other (if code = 21 then .isDirectory else .notDirectory)
  | .error _ => return .other .absent

/-- The files that a command may need, each read once. -/
def readFiles (paths : List Path) : IO FileSystem := do
  let entries ← paths.mapM fun p => return (p, ← entryAt p)
  return fun p => (entries.lookup p).getD (.other .absent)

/-- What the program finds around it. -/
def lookAround (i : Invocation) : IO Surroundings := do
  let directory := (Path.ofText [] (← IO.currentDir).toString).normal
  let home := ((← IO.getEnv "HOME").filter (· != "")).map (Path.ofText directory)
  let global := home.map (SettingsFile.fileName :: ·)
  let files ← readFiles <|
    SettingsFile.candidates directory ++ global.toList ++
      i.file?.toList.map (Path.ofText directory)
  let input ← if i.readsInput then textOf <$> (← IO.getStdin).readBinToEnd else pure (.ok "")
  return { files, directory, home, input }

/-- Runs a command; a first run takes the time that the second tells. -/
def runTimed (i : Invocation) (s : Surroundings) : IO Transcript := do
  let start ← IO.monoNanosNow
  let first ← IO.lazyPure fun _ => i.run s (Elapsed.ofNanos 0)
  if first.output.isEmpty then return first
  return i.run s (Elapsed.ofNanos ((← IO.monoNanosNow) - start))

end RecordQuery

open RecordQuery

def main (arguments : List String) : IO UInt32 := do
  match Invocation.ofArguments arguments with
  | .error .help => do
    IO.print usage
    return 0
  | .error .mistake => do
    IO.eprint usage
    return 2
  | .ok i => do
    let t ← runTimed i (← lookAround i)
    IO.print t.output
    IO.eprint t.errors
    if t.errors != "" && !t.errors.endsWith "\n" then IO.eprintln ""
    return t.exitCode.toUInt32
