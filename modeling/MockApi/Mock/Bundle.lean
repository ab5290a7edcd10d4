/-
Mock bundles: definitions by route, in order, for that order decides which
route answers. The first method of a pattern has the bare pattern as its
key; another method of the same pattern has itself in front of its key.
-/
import MockApi.Mock.Generator

namespace MockApi

/-- A method and a URL. -/
structure Call where
  method : Text
  url : Text
deriving DecidableEq, Repr

/-- Definitions by key, in order. -/
abbrev Bundle := List (Text × Definition)

namespace Bundle

/-- The key of a pattern that another method has taken. -/
def keyWithMethod (method pattern : Text) : Text := Text.upper method ++ " " ++ pattern

/-- What has been built: the bundle, the methods and patterns that are in it,
and the draws that remain. -/
structure Building where
  bundle : Bundle
  claimed : List (Text × Text)
  chance : Chance

/-- Adds the definition of an endpoint, unless its method and pattern are in
the bundle. -/
def add (g : Generator) (statefulPosts : Bool) (b : Building) (call : Call) :
    Except GenerationError Building := do
  let pattern ← (Path.routePattern call.url g.config.baseUrl).mapError .url
  let method := Text.upper call.method
  if b.claimed.contains (method, pattern) then return b
  let (definition, chance) ← g.generate method call.url b.chance
  let definition :=
    if statefulPosts && method == "POST" then { definition with stateful := true }
    else definition
  let key := if Fields.has pattern b.bundle then keyWithMethod method pattern else pattern
  return {
    bundle := Fields.put key definition b.bundle
    claimed := (method, pattern) :: b.claimed
    chance }

/-- The bundle of the given endpoints, with the draws that remain. -/
def build (g : Generator) (statefulPosts : Bool) (calls : List Call) (chance : Chance) :
    Except GenerationError (Bundle × Chance) := do
  let b ← calls.foldlM (add g statefulPosts) ⟨[], [], chance⟩
  return (b.bundle, b.chance)

/-- The document of a bundle. -/
def toJson (bundle : Bundle) : Json := .obj (bundle.map fun entry => (entry.1, entry.2.toJson))

-- ============================================== one file per endpoint

/-- A character that a file name is better without. -/
def isUnsafe (c : CodePoint) : Bool := ("/:?&=*<>|\"\\" : Text).contains c || Text.isBlank c

/-- The character that stands for one in a file name. -/
def safe (c : CodePoint) : CodePoint := if isUnsafe c then '_' else c

/-- The file name of an endpoint's mock. -/
def fileName (call : Call) : Text :=
  Text.upper call.method ++ "_" ++ call.url.map safe ++ ".json"

/-- Why mocks were not written. -/
inductive WriteError where
  | generation (cause : GenerationError)
  | document (cause : Document.WriteError)
deriving DecidableEq, Repr

/-- What has been written: the disk, the paths, and the draws that remain. -/
structure Writing where
  disk : Disk
  written : List FilePath
  chance : Chance

/-- Writes the mock of one endpoint. -/
def writeOne (g : Generator) (directory : FilePath) (w : Writing) (call : Call) :
    Except WriteError Writing := do
  let (definition, chance) ← (g.generate call.method call.url w.chance).mapError .generation
  let path := directory.child (fileName call)
  let disk ← (Document.write w.disk path definition.toJson).mapError .document
  return { disk, written := w.written ++ [path], chance }

/-- Writes a file for every endpoint. -/
def writeEach (g : Generator) (directory : FilePath) (calls : List Call) (disk : Disk)
    (chance : Chance) : Except WriteError Writing :=
  calls.foldlM (writeOne g directory) ⟨disk, [], chance⟩

end Bundle

-- ====================================================== reading bundles

/-- Why a file is no mock bundle. -/
inductive BundleFlaw where
  | unreadable (path : Text) (flaw : DocumentFlaw)
  | notObject (path kind : Text)
deriving DecidableEq, Repr

def BundleFlaw.message : BundleFlaw → Text
  | unreadable path flaw =>
    "Cannot read mock bundle " ++ path ++ ": " ++ flaw.message
  | notObject path kind =>
    "Unexpected JSON format in " ++ path
      ++ ". Expected an object of route -> definition, got " ++ kind

/-- Why a bundle was not read: it is flawed, or the document holds what no
reader excuses. -/
inductive BundleError where
  | flawed (flaw : BundleFlaw)
  | numeral (cause : NumeralError)
  | tooDeep
  /-- The path is one that nobody can ask about. -/
  | unreachable (cause : DiskError)
deriving DecidableEq, Repr

namespace Bundle

/-- The entries of a bundle file, none if there is no file. -/
def load [JsonReader] (disk : Disk) (path : FilePath) : Except BundleError Fields :=
  match disk.isFile path with
  | .error cause => .error (.unreachable cause)
  | .ok false => .ok []
  | .ok true =>
    match Document.read disk path with
    | .ok (.obj fields) => .ok fields
    | .ok other => .error (.flawed (.notObject path.text other.kindName))
    | .error (.flawed flaw) => .error (.flawed (.unreadable path.text flaw))
    | .error (.numeral cause) => .error (.numeral cause)
    | .error .tooDeep => .error .tooDeep

end Bundle

end MockApi
