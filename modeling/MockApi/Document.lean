/-
JSON documents on a disk. A document is a file of UTF-8 text without a byte
order mark; written, it is indented and ends with a line feed.
-/
import MockApi.Disk
import MockApi.Json.Parser
import MockApi.Json.Printer

namespace MockApi

/-- Why a file is no document that can be read. -/
inductive DocumentFlaw where
  | disk (cause : DiskError)
  | encoding (cause : Utf8.DecodeError)
  | grammar (flaw : JsonFlaw) (place : Place)
deriving DecidableEq, Repr

def DocumentFlaw.message : DocumentFlaw → Text
  | disk cause => cause.message
  | encoding cause => cause.message
  | grammar flaw place => JsonError.flawMessage flaw place

/-- Why a document was not read: it is flawed, or it holds what no reader
excuses. -/
inductive DocumentError where
  | flawed (flaw : DocumentFlaw)
  | numeral (cause : NumeralError)
  | tooDeep
deriving DecidableEq, Repr

namespace Document

/-- Reads the text of a file. -/
def readText (disk : Disk) (path : FilePath) : Except DocumentFlaw Text := do
  let bytes ← (disk.read path).mapError .disk
  let text ← (Utf8.decode bytes).mapError .encoding
  return Text.withLineFeeds text

/-- Reads a document. -/
def read [JsonReader] (disk : Disk) (path : FilePath) : Except DocumentError Json := do
  let text ← (readText disk path).mapError .flawed
  match Json.parseText text with
  | .ok v => return v
  | .error (.flawed flaw place) => throw (.flawed (.grammar flaw place))
  | .error (.numeral cause) => throw (.numeral cause)
  | .error .tooDeep => throw .tooDeep

/-- Why a document was not written. -/
inductive WriteError where
  | disk (cause : DiskError)
  | numeral (cause : NumeralError)
  /-- Its text holds the half of a surrogate pair. -/
  | unencodable
deriving DecidableEq, Repr

def WriteError.message : WriteError → Text
  | disk cause => cause.message
  | numeral cause => cause.message
  | unencodable => "surrogates not allowed"

/-- The text of a document. -/
def text (v : Json) : Except NumeralError Text :=
  (v.write .file).map (· ++ "\n")

/-- Writes a text, if there is one, to a file. The file is opened first. -/
def writeText (disk : Disk) (path : FilePath) (text : Except NumeralError Text) :
    Except WriteError Disk := do
  let (location, disk) ← (disk.openFile path).mapError .disk
  let text ← text.mapError .numeral
  match Utf8.encode? text with
  | some bytes => return disk.put location bytes
  | none => throw .unencodable

/-- Writes a document. -/
def write (disk : Disk) (path : FilePath) (v : Json) : Except WriteError Disk :=
  writeText disk path (text v)

end Document

end MockApi
