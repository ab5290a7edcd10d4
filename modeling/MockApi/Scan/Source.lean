/-
Scanning source files. A file's dialect comes with it or is told by its
path; the rules of the dialect are tried in order on the whole text, after
the client names of the file have been collected. A file of no dialect has
no endpoints, and no file's names hold in another.
-/
import MockApi.Disk
import MockApi.Scan.Endpoint
import MockApi.Scan.Line
import MockApi.Scan.RuleTable

namespace MockApi

/-- The text of a source file. -/
structure Source where
  path : Text
  text : Text
  /-- The name of the dialect, if the path does not tell it. -/
  dialectName : Text := []

namespace Source

/-- The dialect of a file. -/
def dialect? (s : Source) : Option Dialect :=
  if s.dialectName.isEmpty then Dialect.ofPath? (.ofText s.path)
  else Dialect.ofName? s.dialectName

/-- The endpoints of a file in the order in which its rules find them. -/
def endpoints (s : Source) : List Endpoint :=
  match s.dialect? with
  | none => []
  | some dialect =>
    let names := ClientNames.ofText dialect s.text
    let breaks := Line.breaks s.text
    dialect.rules.flatMap fun rule =>
      (rule.hits names s.text).map fun hit =>
        { file := s.path, line := Line.ofBreaks breaks hit.offset, url := hit.url
          method := hit.method, raw := hit.raw }

/-- The endpoints of some files, each once. -/
def allEndpoints (sources : List Source) : List Endpoint :=
  Endpoint.deduplicate (sources.flatMap endpoints)

end Source

-- ============================================================= reading

/-- What keeps a file from being scanned. -/
inductive ScanObstacle where
  | disk (cause : DiskError)
  | tooLarge (size : Nat)
  | binary
  | encoding (cause : Utf8.DecodeError)
deriving DecidableEq, Repr

def ScanObstacle.message : ScanObstacle → Text
  | disk cause => cause.message
  | tooLarge size => "file too large (" ++ decimalOfNat size ++ " bytes)"
  | binary => "binary file"
  | encoding cause => "not UTF-8 text: " ++ cause.message

/-- A file that cannot be scanned. -/
structure ScanError where
  path : Text
  obstacle : ScanObstacle
deriving DecidableEq, Repr

/-- What is said of a file that cannot be scanned. -/
def ScanError.describe (path reason : Text) : Text :=
  "Cannot scan " ++ path ++ ": " ++ reason

def ScanError.message (e : ScanError) : Text := describe e.path e.obstacle.message

namespace Source

/-- The most bytes of a file unless another limit is given. -/
def defaultLimit : Int := 2 * 1024 * 1024

/-- How far into a file a zero byte tells that it is no text. -/
def zeroWindow : Nat := 8192

/-- The text of a file's bytes, a byte order mark left out. -/
def decode (limit : Int) (bytes : Bytes) : Except ScanObstacle Text :=
  if limit < bytes.length then .error (.tooLarge bytes.length)
  else if (bytes.take zeroWindow).contains 0 then .error .binary
  else (Utf8.decode (Utf8.withoutMark bytes)).mapError .encoding

/-- Reads the text of a source file. -/
def readText (disk : Disk) (path : Text) (limit : Int) : Except ScanError Text :=
  ((disk.readAt path).mapError .disk >>= decode limit).mapError (⟨path, ·⟩)

/-- The endpoints of a file on a disk, none if it cannot be scanned. -/
def endpointsAt (disk : Disk) (limit : Int) (path : Text) : List Endpoint :=
  match readText disk path limit with
  | .ok text => endpoints { path, text }
  | .error _ => []

end Source

end MockApi
