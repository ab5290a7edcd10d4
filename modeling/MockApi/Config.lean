/-
The configuration of a project: the base URL that endpoints have in front,
and responses given by hand for single URLs. Reading is strict; loading for
a project is lenient, falling back to the default with a warning, and leaves
a default document behind where there was none.
-/
import MockApi.Document
import MockApi.Log
import MockApi.Project

namespace MockApi

/-- Overrides for mock generation. -/
structure Config where
  baseUrl : Text := []
  templates : Fields := []

/-- Why a document is no configuration. -/
inductive ConfigFlaw where
  | notObject (kind : Text)
  | baseUrlNotText
  | templatesNotObject
  | unreadable (path : Text) (flaw : DocumentFlaw)
deriving DecidableEq, Repr

def ConfigFlaw.message : ConfigFlaw → Text
  | notObject kind => "Config must be a JSON object, got " ++ kind
  | baseUrlNotText => "baseURL must be a string"
  | templatesNotObject => "responseTemplates must be an object"
  | unreadable path flaw =>
    "Cannot read config " ++ path ++ ": " ++ flaw.message

/-- Why a configuration was not read: it is flawed, or the document holds
what no reader excuses. -/
inductive ConfigError where
  | flawed (flaw : ConfigFlaw)
  | numeral (cause : NumeralError)
  | tooDeep
  /-- The path is one that nobody can ask about. -/
  | unreachable (cause : DiskError)
  | unwritable (cause : Document.WriteError)
deriving DecidableEq, Repr

namespace Config

/-- A field that counts as absent unless it is set. -/
def setField? (key : Text) (fields : Fields) : Option Json :=
  (Fields.get? key fields).filter (·.isSet)

/-- The configuration that a document holds. -/
def ofJson (document : Json) : Except ConfigFlaw Config :=
  match document with
  | .obj fields =>
    match setField? "baseURL" fields, setField? "responseTemplates" fields with
    | none, none => .ok {}
    | some (.str url), none => .ok { baseUrl := url }
    | none, some (.obj templates) => .ok { templates }
    | some (.str url), some (.obj templates) => .ok { baseUrl := url, templates }
    | none, some _ => .error .templatesNotObject
    | some (.str _), some _ => .error .templatesNotObject
    | some _, _ => .error .baseUrlNotText
  | other => .error (.notObject other.kindName)

/-- The document of a configuration. -/
def toJson (config : Config) : Json :=
  .ofFields [("baseURL", .str config.baseUrl), ("responseTemplates", .obj config.templates)]

/-- The response given for a URL. -/
def templateFor (config : Config) (url : Text) : Option Json :=
  (Fields.get? url config.templates).filter fun template =>
    match template with
    | .null => false
    | _ => true

/-- Reads a configuration strictly. -/
def read [JsonReader] (disk : Disk) (path : FilePath) : Except ConfigError Config :=
  match Document.read disk path with
  | .ok document => (ofJson document).mapError .flawed
  | .error (.flawed flaw) => .error (.flawed (.unreadable path.text flaw))
  | .error (.numeral cause) => .error (.numeral cause)
  | .error .tooDeep => .error .tooDeep

/-- Loads a project's configuration, with what there is to report and the
disk afterwards. -/
def load [JsonReader] (disk : Disk) (project : Project) :
    Except ConfigError (Config × Log × Disk) :=
  let path := project.configFile
  match disk.holds path with
  | .error cause => .error (.unreachable cause)
  | .ok true =>
    match read disk path with
    | .ok config => .ok (config, [], disk)
    | .error (.flawed flaw) =>
      .ok ({}, [.warning (flaw.message ++ "; using default config")], disk)
    | .error e => .error e
  | .ok false =>
    match Document.write disk path (toJson {}) with
    | .ok disk => .ok ({}, [], disk)
    | .error (.disk cause) =>
      if cause.isNoPath then .error (.unreachable cause)
      else
        .ok ({}, [.warning ("Could not create default config at " ++ path.text ++ ": "
          ++ cause.message)], disk)
    | .error cause => .error (.unwritable cause)

end Config

end MockApi
