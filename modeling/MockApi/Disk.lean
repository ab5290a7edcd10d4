/-
A disk as its files and directories, each by the names that lead to it from
the root. A path is followed name by name: whatever has a name behind it has
to be a directory that is there, and two points go back to the directory
before. Directories on the way to a file are there with it, and so is the
working directory.
-/
import MockApi.Disk.FileName
import MockApi.Disk.FilePath

namespace MockApi

/-- Why the disk refused an operation, with the path that was given. -/
inductive DiskError where
  | missing (path : Text)
  | denied (path : Text)
  | alreadyExists (path : Text)
  | notDirectory (path : Text)
  | isDirectory (path : Text)
  | nameTooLong (path : Text)
  /-- No name may hold a zero character; the system is not even asked. -/
  | zeroInName (path : Text)
  /-- Nor may it hold a code point that stands for no byte. -/
  | unencodable (path : Text)
deriving DecidableEq, Repr

namespace DiskError

def code : DiskError → Nat
  | missing _ => 2
  | denied _ => 13
  | alreadyExists _ => 17
  | notDirectory _ => 20
  | isDirectory _ => 21
  | nameTooLong _ => 36
  | zeroInName _ | unencodable _ => 22

def description : DiskError → Text
  | missing _ => "No such file or directory"
  | denied _ => "Permission denied"
  | alreadyExists _ => "File exists"
  | notDirectory _ => "Not a directory"
  | isDirectory _ => "Is a directory"
  | nameTooLong _ => "File name too long"
  | zeroInName _ => "embedded null byte"
  | unencodable _ => "surrogates not allowed"

def path : DiskError → Text
  | missing path | denied path | alreadyExists path | notDirectory path | isDirectory path
  | nameTooLong path | zeroInName path | unencodable path => path

def message : DiskError → Text
  | e@(zeroInName _) | e@(unencodable _) => e.description
  | e => "[Errno " ++ decimalOfNat e.code ++ "] " ++ e.description ++ ": " ++ Text.quoted e.path

/-- The path is none that the system can be asked about. -/
def isNoPath : DiskError → Bool
  | zeroInName _ | unencodable _ => true
  | _ => false

end DiskError

/-- The names that lead from the root to a file or a directory. -/
abbrev Location := List Text

/-- The files and directories of a disk. -/
structure Disk where
  /-- An absolute path. -/
  workingDirectory : FilePath
  files : List (Location × Bytes)
  /-- Directories that are there though nothing needs to be in them. -/
  directories : List Location := []
  /-- The files that may be neither read nor written. -/
  closed : List Location := []

namespace Disk

/-- An empty working directory. -/
def empty (workingDirectory : FilePath) : Disk := { workingDirectory, files := [] }

/-- The file at a location. -/
def file? (disk : Disk) (location : Location) : Option Bytes :=
  (disk.files.find? fun entry => entry.1 == location).map (·.2)

/-- A directory is at the location. -/
def isDirectoryAt (disk : Disk) (location : Location) : Bool :=
  location.isPrefixOf disk.workingDirectory.parts
    || disk.directories.any location.isPrefixOf
    || disk.files.any fun entry =>
      location.isPrefixOf entry.1 && location.length < entry.1.length

-- ====================================================== following paths

/-- The most bytes a name may have. -/
def nameLimit : Nat := 255

/-- The number of bytes that no path may have. -/
def pathLimit : Nat := 4096

/-- Checks that the system can be asked about a path. -/
def checkPath (path : Text) : Except DiskError Unit :=
  if (FileName.bytes? path).isNone then .error (.unencodable path)
  else if path.contains '\x00' then .error (.zeroInName path)
  else if pathLimit ≤ FileName.size path then .error (.nameTooLong path)
  else .ok ()

/-- Follows one name of a path from a location, which has to be a directory.
An empty name and a single point stay there. -/
def step (disk : Disk) (path : Text) (location : Location) (name : Text) :
    Except DiskError Location :=
  if (disk.file? location).isSome then .error (.notDirectory path)
  else if !disk.isDirectoryAt location then .error (.missing path)
  else if name.isEmpty || name == "." then .ok location
  else if name == ".." then .ok location.dropLast
  else if nameLimit < FileName.size name then .error (.nameTooLong path)
  else .ok (location ++ [FileName.canonical name])

/-- Where a path starts: in the working directory or at the root. -/
def start (disk : Disk) (isAbsolute : Bool) : Location :=
  if isAbsolute then [] else disk.workingDirectory.parts

/-- The location a path leads to, where something may be. -/
def locate (disk : Disk) (path : FilePath) : Except DiskError Location := do
  checkPath path.text
  path.parts.foldlM (disk.step path.text) (disk.start (path.anchor != .relative))

/-- Whether what a path leads to has a property. A path that leads nowhere
leads to nothing; only one that is too long is refused. -/
def leadsTo (disk : Disk) (path : FilePath) (property : Location → Bool) :
    Except DiskError Bool :=
  match disk.locate path with
  | .ok location => .ok (property location)
  | .error (.nameTooLong path) => .error (.nameTooLong path)
  | .error _ => .ok false

/-- The path leads to a file. -/
def isFile (disk : Disk) (path : FilePath) : Except DiskError Bool :=
  disk.leadsTo path fun location => (disk.file? location).isSome

/-- The path leads to something. -/
def holds (disk : Disk) (path : FilePath) : Except DiskError Bool :=
  disk.leadsTo path fun location => (disk.file? location).isSome || disk.isDirectoryAt location

-- ============================================================== reading

/-- Reads the file at a location. -/
def readFile (disk : Disk) (path : Text) (location : Location) : Except DiskError Bytes :=
  match disk.file? location with
  | some bytes => if disk.closed.contains location then .error (.denied path) else .ok bytes
  | none => .error (if disk.isDirectoryAt location then .isDirectory path else .missing path)

/-- Reads a file. -/
def read (disk : Disk) (path : FilePath) : Except DiskError Bytes := do
  disk.readFile path.text (← disk.locate path)

/-- Reads the file that a text leads to, with every slash and point in it. An
empty text leads nowhere. -/
def readAt (disk : Disk) (path : Text) : Except DiskError Bytes := do
  checkPath path
  if path.isEmpty then throw (.missing path)
  let location ← (Text.splitOn '/' path).foldlM (disk.step path)
    (disk.start (path.head? == some '/'))
  disk.readFile path location

-- ============================================================== writing

/-- The file at a location set to new bytes, behind the others if it is new. -/
def put (disk : Disk) (location : Location) (bytes : Bytes) : Disk :=
  if disk.files.any (·.1 == location) then
    { disk with files := disk.files.map fun entry =>
        if entry.1 == location then (location, bytes) else entry }
  else { disk with files := disk.files ++ [(location, bytes)] }

/-- The disk without the file at a path. -/
def remove (disk : Disk) (path : FilePath) : Disk :=
  match disk.locate path with
  | .ok location => { disk with files := disk.files.filter (·.1 != location) }
  | .error _ => disk

/-- Makes a directory where nothing is, in a directory that is there. -/
def makeDirectory (disk : Disk) (path : FilePath) : Except DiskError Disk := do
  let location ← disk.locate path
  if (disk.file? location).isSome || disk.isDirectoryAt location then
    throw (.alreadyExists path.text)
  return { disk with directories := disk.directories ++ [location] }

/-- The path leads to a directory. -/
def isDirectory (disk : Disk) (path : FilePath) : Bool :=
  match disk.locate path with
  | .ok location => disk.isDirectoryAt location
  | .error _ => false

/-- Sees to it that a path leads to a directory, making those on the way that
are missing. -/
def ensureDirectory (disk : Disk) (path : FilePath) : Except DiskError Disk :=
  match disk.makeDirectory path with
  | .ok disk => .ok disk
  | .error (.missing _) =>
    if h : path.parts = [] then .error (.missing path.text)
    else do
      have : path.parent.parts.length < path.parts.length := by
        have := List.length_pos_iff.2 h
        simp [FilePath.parent]
        omega
      let disk ← disk.ensureDirectory path.parent
      if disk.isDirectory path then return disk
      disk.makeDirectory path
  | .error e => if disk.isDirectory path then .ok disk else .error e
termination_by path.parts.length

/-- The location of a file that is going to be written, and the disk with the
directories on the way to it. -/
def openFile (disk : Disk) (path : FilePath) : Except DiskError (Location × Disk) := do
  let disk ← disk.ensureDirectory path.parent
  let location ← disk.locate path
  if disk.isDirectoryAt location then throw (.isDirectory path.text)
  if disk.closed.contains location then throw (.denied path.text)
  return (location, disk)

/-- Writes a file, making the directories on the way to it. -/
def write (disk : Disk) (path : FilePath) (bytes : Bytes) : Except DiskError Disk := do
  let (location, disk) ← disk.openFile path
  return disk.put location bytes

-- ============================================================== walking

/-- The names that lead from a directory to a location in it. -/
def below? : Location → Location → Option Location
  | [], location => some location
  | _ :: _, [] => none
  | a :: directory, b :: location => if a = b then below? directory location else none

/-- The name of what is right in a directory. -/
def nameIn? (directory location : Location) : Option Text :=
  match below? directory location with
  | some [name] => some name
  | _ => none

/-- The names of the files in a directory, in their order. -/
def fileNames (disk : Disk) (directory : Location) : List Text :=
  Text.sorted (disk.files.filterMap fun entry => nameIn? directory entry.1)

/-- Directories that are there. So are those on the way to them, and no others. -/
def places (disk : Disk) : List Location :=
  disk.workingDirectory.parts :: disk.directories ++ disk.files.map (·.1.dropLast)

/-- The names of the directories in a directory, in their order. -/
def directoryNames (disk : Disk) (directory : Location) : List Text :=
  Text.sorted (disk.places.filterMap fun place => (below? directory place).bind List.head?).eraseDups

/-- How many directories are one in another at most, the root counted. -/
def depth (disk : Disk) : Nat := (disk.places.map fun place => place.length + 1).foldr max 0

end Disk

end MockApi
