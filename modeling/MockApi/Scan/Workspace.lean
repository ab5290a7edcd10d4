/-
Scanning a directory. Its source files are listed by a walk: the files of a
directory by name, and then those of its directories, one directory after the
other by name. Directories in which nobody writes code by hand are not entered; a
file that cannot be scanned has no endpoints.

Limits of the machine are left out: a directory that is there can be listed, and a
walk has room for as many levels as there are.
-/
import MockApi.Scan.Source

namespace MockApi.Workspace

/-- Directories in which nothing is looked for. -/
def excludedDirectories : List Text :=
  ["node_modules", ".git", "dist", "out", "build", ".mockgen", "__pycache__", ".venv", "venv",
   "target"]

/-- A file of the name is a source file. -/
def isSource (name : Text) : Bool := (Dialect.ofPath? (.ofText name)).isSome

/-- The source files in so many levels of directories, by the names that lead to
them from the outermost. -/
def walk (disk : Disk) : Nat → Location → List Location
  | 0, _ => []
  | levels + 1, directory =>
    let names := (disk.directoryNames directory).filter (!excludedDirectories.contains ·)
    ((disk.fileNames directory).filter isSource).map ([·])
      ++ names.flatMap fun name => (walk disk levels (directory ++ [name])).map (name :: ·)

/-- The source files below a directory. -/
def sourceFiles (disk : Disk) (root : FilePath) : List FilePath :=
  match disk.locate root with
  | .error _ => []
  | .ok directory => (walk disk disk.depth directory).map root.descend

/-- The endpoints of the source files below a directory, each once. -/
def endpoints (disk : Disk) (root : FilePath) (limit : Int) : List Endpoint :=
  Endpoint.deduplicate <|
    (sourceFiles disk root).flatMap fun path => Source.endpointsAt disk limit path.text

end MockApi.Workspace
