/-
Endpoints: the calls and routes that a scan found, each with the place where
it was found. An endpoint counts once for its file, URL and method. As
entries of a document, endpoints are sorted by file, line, method and URL,
and their files are given as seen from a root.
-/
import MockApi.Disk.FilePath
import MockApi.Json.Display

namespace MockApi

/-- A call or a route, and where it was found. -/
structure Endpoint where
  file : Text
  line : Int
  url : Text
  method : Text
  /-- The text that was found. -/
  raw : Text
deriving DecidableEq, Repr

namespace Endpoint

/-- What makes an endpoint the same as another. -/
def key (e : Endpoint) : Text × Text × Text := (e.file, e.url, e.method)

/-- The endpoints whose keys are new, in order. -/
def newIn (seen : List (Text × Text × Text)) : List Endpoint → List Endpoint
  | [] => []
  | e :: rest =>
    if seen.contains e.key then newIn seen rest else e :: newIn (e.key :: seen) rest

/-- The first endpoint of every key, in order. -/
def deduplicate (endpoints : List Endpoint) : List Endpoint := newIn [] endpoints

/-- A file as seen from a root, if it lies under it. -/
def fileFrom (root : FilePath) (file : Text) : Text :=
  match (FilePath.ofText file).relativeTo? root with
  | some path => path.text
  | none => file

/-- The endpoint with its file as seen from a root. -/
def seenFrom (root : Option FilePath) (e : Endpoint) : Endpoint :=
  match root with
  | some root => { e with file := fileFrom root e.file }
  | none => e

/-- Sorted before: by file, line, method, URL. -/
def precedes (a b : Endpoint) : Bool :=
  if a.file ≠ b.file then Text.precedes a.file b.file
  else if a.line ≠ b.line then a.line < b.line
  else if a.method ≠ b.method then Text.precedes a.method b.method
  else Text.precedes a.url b.url

/-- The endpoints as seen from a root, sorted; equal ones keep their order. -/
def sorted (root : Option FilePath) (endpoints : List Endpoint) : List Endpoint :=
  (endpoints.map (seenFrom root)).mergeSort fun a b => !precedes b a

/-- Where an endpoint was found. -/
def location (e : Endpoint) : Text := e.file ++ ":" ++ decimal e.line

/-- An endpoint as an entry of a document. -/
def toJson (e : Endpoint) : Json :=
  .ofFields
    [("file", .str e.file), ("line", .int e.line), ("url", .str e.url), ("method", .str e.method),
     ("location", .str e.location), ("raw", .str e.raw)]

/-- The entries of a document. -/
def entries (root : Option FilePath) (endpoints : List Endpoint) : Json :=
  .arr ((sorted root endpoints).map toJson)

end Endpoint

-- =========================================================== reading

/-- Why a value is no entry for an endpoint. -/
inductive EntryError where
  | notObject
  | lineNotNumber
  | lineUndefined
  | lineInfinite
  | numeral (cause : NumeralError)
  | noUrl
  | methodNotText
  | fileNotText
deriving DecidableEq, Repr

def EntryError.message : EntryError → Text
  | notObject => "an endpoint is an object"
  | lineNotNumber => "a line is a number"
  | lineUndefined => "cannot convert float NaN to integer"
  | lineInfinite => "cannot convert float infinity to integer"
  | numeral cause => cause.message
  | noUrl => "an endpoint has a URL"
  | methodNotText => "a method is a text"
  | fileNotText => "only a text leads to a file"

/-- An entry as it was read: what should be text may be any value. -/
structure Entry where
  file : Json
  line : Int
  url : Json
  method : Text
  raw : Json

namespace Entry

/-- The line that a value gives. Truth counts as one; a number is cut off. -/
def lineOf : Json → Except EntryError Int
  | .int n => .ok n
  | .bool b => .ok (if b then 1 else 0)
  | .float x =>
    if x.isNaN then .error .lineUndefined
    else if x.isInfinite then .error .lineInfinite
    else .ok x.truncate
  | .str t => (readInteger t).mapError .numeral
  | _ => .error .lineNotNumber

/-- Reads an entry; only the URL has to be there. -/
def ofJson (v : Json) : Except EntryError Entry :=
  match v with
  | .obj fields => do
    let line ← lineOf ((Fields.get? "line" fields).getD (.int 1))
    let url ←
      match Fields.get? "url" fields with
      | some url => pure url
      | none => throw .noUrl
    let method ←
      match (Fields.get? "method" fields).getD (.ofString "GET") with
      | .str t => pure (Text.upper t)
      | _ => throw .methodNotText
    return {
      file := (Fields.get? "file" fields).getD (.str [])
      line, url, method
      raw := (Fields.get? "raw" fields).getD (.str []) }
  | _ => .error .notObject

/-- The entry with its file as seen from a root. -/
def seenFrom (root : Option FilePath) (e : Entry) : Except EntryError Entry :=
  match root, e.file with
  | none, _ => .ok e
  | some root, .str file => .ok { e with file := .str (Endpoint.fileFrom root file) }
  | some _, _ => .error .fileNotText

/-- Where the endpoint was found. -/
def location (e : Entry) : Except NumeralError Text := do
  return (← e.file.plain .braces) ++ ":" ++ (← writeInteger e.line)

/-- The entry as seen from a root. -/
def toJson (root : Option FilePath) (e : Entry) : Except EntryError Json := do
  let e ← e.seenFrom root
  let location ← e.location.mapError .numeral
  return .ofFields
    [("file", e.file), ("line", .int e.line), ("url", e.url), ("method", .str e.method),
     ("location", .str location), ("raw", e.raw)]

end Entry

end MockApi
