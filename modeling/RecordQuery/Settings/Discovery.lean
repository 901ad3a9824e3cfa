import RecordQuery.Files.Tree
import RecordQuery.Settings.File

/-!
# Finding settings files

Settings files are looked for in a directory and in all that hold it, the nearest first. A file that
is marked as the root of a project ends the search; without one, the user's own file comes last.
-/

namespace RecordQuery

namespace SettingsFile

/-- The name of settings files. -/
def fileName : String := ".sift.toml"

/-- Whether the file at a path is marked as a root. One that cannot be read is not. -/
def isRoot (fs : FileSystem) (p : Path) : Bool :=
  match (fs p).text with
  | .ok text => (read? text).any fun f => f.root = some true
  | .error _ => false

/-- Where settings files may stand that apply in a directory, the nearest first. -/
def candidates : (directory : Path) → List Path
  | [] => [[fileName]]
  | name :: parent => (fileName :: name :: parent) :: candidates parent

/-- The files among the candidates up to the first root, and whether there is a root. -/
def search (fs : FileSystem) : (candidates : List Path) → List Path × Bool
  | [] => ([], false)
  | p :: rest =>
    if (fs p).isFile then
      if isRoot fs p then ([p], true)
      else
        let (found, rooted) := search fs rest
        (p :: found, rooted)
    else search fs rest

/-- The settings files that apply in a directory, the first having precedence. -/
def discover (fs : FileSystem) (directory : Path) (global : Option Path) : List Path :=
  let (found, rooted) := search fs (candidates directory)
  if rooted then found
  else found ++ global.toList.filter fun p => (fs p).isFile && !found.contains p

end SettingsFile

namespace Settings

inductive LoadError where
  | unreadable (path : String) (failure : ReadFailure)
  /-- A file that is no settings file. -/
  | invalid (path : String)
  deriving DecidableEq, Repr

namespace LoadError

/-- The message, up to the reason. -/
def message : LoadError → String
  | unreadable path _ => "failed to read config file " ++ path ++ ": "
  | invalid path => "failed to parse config file " ++ path ++ ": "

/-- The reason, where this library gives one. -/
def reason : LoadError → String
  | unreadable _ failure => failure.message ++ "\n"
  | invalid _ => ""

end LoadError

/-- The settings file of a text that stands at a path. -/
def fileOfText (path : String) (text : String) : Except LoadError SettingsFile :=
  match SettingsFile.read? text with
  | some f => .ok f
  | none => .error (.invalid path)

/-- The settings file at a path. -/
def fileAt (fs : FileSystem) (p : Path) : Except LoadError SettingsFile :=
  match (fs p).text with
  | .ok text => fileOfText p.display text
  | .error failure => .error (.unreadable p.display failure)

/-- The settings of the files at these paths, the first having precedence. -/
def load (fs : FileSystem) (paths : List Path) : Except LoadError Settings := do
  return ofFiles (← paths.mapM (fileAt fs))

end Settings

end RecordQuery
