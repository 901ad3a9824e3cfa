import RecordQuery.Files.Path

/-!
# File systems

What can be asked of a file system: what stands at a path. A tree of files and directories answers
this by walking along the path.
-/

namespace RecordQuery

/-- Why no text can be read at a path. -/
inductive ReadFailure where
  | absent
  | isDirectory
  /-- The path leads through a file. -/
  | notDirectory
  | forbidden
  | notText
  deriving DecidableEq, Repr

def ReadFailure.message : ReadFailure → String
  | absent => "No such file or directory (os error 2)"
  | isDirectory => "Is a directory (os error 21)"
  | notDirectory => "Not a directory (os error 20)"
  | forbidden => "Permission denied (os error 13)"
  | notText => "stream did not contain valid UTF-8"

/-- What stands at a path. -/
inductive Entry where
  /-- A regular file, and its text unless that cannot be read. -/
  | file (text : Except ReadFailure String)
  | other (failure : ReadFailure)

namespace Entry

def isFile : Entry → Bool
  | file _ => true
  | other _ => false

def text : Entry → Except ReadFailure String
  | file text => text
  | other failure => .error failure

end Entry

/-- What stands at each path, at one time. -/
abbrev FileSystem := Path → Entry

/-- Files with their texts, and directories. All that hold one of these are directories too. -/
structure FileTree where
  files : List (Path × String)
  directories : List Path

namespace FileTree

def isDirectory (t : FileTree) (p : Path) : Bool :=
  p.isEmpty || t.directories.any p.isSuffixOf || t.files.any fun f => f.1 != p && p.isSuffixOf f.1

/-- What is reached from a path by these names. -/
def entryFrom (t : FileTree) : (here : Path) → (names : List String) → Entry
  | here, [] =>
    match t.files.lookup here with
    | some text => .file (.ok text)
    | none => .other (if t.isDirectory here then .isDirectory else .absent)
  | here, name :: rest =>
    if (t.files.lookup here).isSome then .other .notDirectory
    else if !t.isDirectory here then .other .absent
    else if name = "." then t.entryFrom here rest
    else if name = ".." then t.entryFrom here.tail rest
    else t.entryFrom (name :: here) rest

def entry (t : FileTree) : FileSystem := fun p => t.entryFrom [] p.reverse

end FileTree

end RecordQuery
