/-
The program: it reads the files below the working directory, runs the task
of its command line on them, and writes what has changed. Directories in
which nothing is looked for are not read, but for the project's own.

No socket is opened: serving tells what a server would and ends.
-/
import MockApi.Command.Run
import Std.Time.DateTime.Timestamp

namespace MockApi.Program

/-- What the program can be asked for, line by line. -/
def usage : List String :=
  ["usage: mockgen [-h] [--log-level LEVEL] \x7bscan,generate,openapi,serve\x7d ...",
   "",
   "Discover API endpoints in source code and serve generated mocks.",
   "",
   "mockgen scan [ROOT] [-w WORKERS] [--verbose]",
   "mockgen generate [ROOT] [-w WORKERS] [--split] [--stateful]",
   "mockgen openapi [ROOT] [-w WORKERS] [--format FORMAT] [-o OUTPUT]",
   "mockgen serve [ROOT] [--host HOST] [-p PORT] [--max-port-attempts COUNT] [--seed SEED]",
   "    [--access-log]"]

/-- Nothing below a directory of this name is read. -/
def isSkipped (name : Text) : Bool :=
  Workspace.excludedDirectories.contains name && name != ".mockgen"

/-- Adds the files below a directory to a disk. A file that cannot be read is
there and closed. -/
partial def withFilesBelow (directory : String) (location : Location) (disk : Disk) :
    IO Disk := do
  let mut disk := disk
  for entry in ← (← IO.FS.realPath directory).readDir do
    let path := directory ++ "/" ++ entry.fileName
    let name : Text := entry.fileName
    let location := location ++ [name]
    try
      match (← entry.path.metadata).type with
      | .dir =>
        unless isSkipped name do
          disk ← withFilesBelow path location disk
      | .file =>
        try disk := disk.put location (← IO.FS.readBinFile path).toList
        catch _ => disk := { disk.put location [] with closed := location :: disk.closed }
      | _ => pure ()
    catch _ => pure ()
  return disk

/-- The draws that a run may use up. -/
def drawCount : Nat := 10000

/-- What the program finds around it. -/
def surroundings : IO Surroundings := do
  let directory := toString (← IO.currentDir)
  let path : FilePath := .ofText directory
  let draws ← (List.range drawCount).mapM fun _ => IO.rand 0 1000000
  let now ← Std.Time.Timestamp.now
  return {
    disk := ← withFilesBelow directory path.parts (.empty path)
    now := Moment.ofEpoch now.toSecondsSinceUnixEpoch.val.toNat
    chance := ⟨draws.map Int.ofNat⟩ }

/-- The path of a location. -/
def pathOf (location : Location) : String :=
  Text.toString (FilePath.text { anchor := .root, parts := location })

/-- Makes the directories that are new, and writes the files that are new or
differ. -/
def writeChanges (before after : Disk) : IO Unit := do
  for location in after.directories do
    unless before.directories.contains location do IO.FS.createDirAll (pathOf location)
  for (location, bytes) in after.files do
    if before.file? location != some bytes then
      IO.FS.writeBinFile (pathOf location) ⟨bytes.toArray⟩

/-- Prints what a command has to tell. -/
def tell (o : Outcome) : IO Unit := do
  for line in o.log do IO.eprintln (Text.toString line.message)
  for line in o.printed do IO.println (Text.toString line)

/-- Runs a command line and returns its exit code. -/
def run [JsonReader] (words : List String) : IO UInt32 := do
  match Invocation.ofWords (words.map Text.ofString) with
  | .error .usage =>
    usage.forM IO.eprintln
    return 2
  | .error refusal =>
    usage.forM IO.println
    return refusal.exitCode.toUInt32
  | .ok i =>
    let around ← surroundings
    match around.run i with
    | .error e =>
      IO.eprintln (Text.toString e.message)
      return 1
    | .ok o =>
      writeChanges around.disk o.disk
      tell o
      return o.exitCode.toUInt32

end MockApi.Program

/-- The program. -/
def main (words : List String) : IO UInt32 := MockApi.Program.run words
