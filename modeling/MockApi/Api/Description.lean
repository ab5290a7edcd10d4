/-
API descriptions: the paths of an API, the operations on each, and the
schemas of what they take and give. An operation is described from the mock
that is made up for it; its body is the example, and the example's schema is
registered under a name taken from the URL.

The registry is shared by all operations of a description. A description
that fails half-way keeps what was registered and drawn until then.
-/
import MockApi.Api.PathTemplate
import MockApi.Api.Schema
import MockApi.Mock.Bundle
import MockApi.Yaml.Printer

namespace MockApi

/-- A value with the schema inferred from it. -/
structure Example where
  schema : Schema
  value : Json

/-- What a method does on a path. -/
structure Operation where
  method : Text
  path : Text
  parameters : List PathParameter
  request : Option Example := none
  /-- The status of the reply, written out. -/
  status : Text
  reply : Option Example := none

namespace Operation

/-- What is sent and where. -/
def summary (o : Operation) : Text := Text.upper o.method ++ " " ++ o.path

/-- An example as the content of a message. -/
def content (e : Example) : Json :=
  .ofFields [("application/json", .ofFields [("schema", e.schema.toJson), ("example", e.value)])]

/-- The replies that every operation may give. They stand over the reply of
the mock where it has the same status. -/
def commonReplies : Fields :=
  [("400", .ofFields [("description", .ofString "Bad Request")]),
   ("401", .ofFields [("description", .ofString "Unauthorized")]),
   ("404", .ofFields [("description", .ofString "Not Found")]),
   ("500", .ofFields [("description", .ofString "Internal Server Error")])]

/-- The reply of the mock. -/
def replyJson (o : Operation) : Json :=
  .ofFields <|
    [("description", .str ("Mocked response for " ++ o.summary))]
    ++ (o.reply.map fun e => ("content", content e)).toList

/-- The replies by status. -/
def replies (o : Operation) : Fields :=
  commonReplies.foldl (fun replies entry => Fields.put entry.1 entry.2 replies)
    [(o.status, o.replyJson)]

/-- An operation as an object. -/
def toJson (o : Operation) : Json :=
  .ofFields <|
    [("summary", .str o.summary)]
    ++ (if o.parameters.isEmpty then [] else
      [("parameters", .arr (o.parameters.map PathParameter.toJson))])
    ++ (o.request.map fun e =>
      ("requestBody", Json.ofFields [("required", .bool true), ("content", content e)])).toList
    ++ [("responses", .obj o.replies)]

end Operation

/-- The formats of a description. -/
inductive DescriptionFormat where
  | json
  | yaml
deriving DecidableEq, Repr

/-- An API description. -/
structure Description where
  /-- The title, null if it has none. -/
  title : Option Text := some "MockGen API"
  /-- Where the API is served, if anything is told. -/
  serverUrl : Text := []
  /-- The operations by path and method. -/
  paths : List (Text × List (Text × Operation)) := []
  registry : Registry := []

namespace Description

/-- Where the API is served if nothing is told. -/
def defaultServerUrl : Text := "http://localhost:3000"

/-- The text with each run of digits replaced by `Id`. -/
def withoutDigits (inRun : Bool) : Text → Text
  | [] => []
  | c :: rest =>
    if Text.isDigit c then
      if inRun then withoutDigits true rest else 'I' :: 'd' :: withoutDigits true rest
    else c :: withoutDigits false rest

/-- The name for what a URL gives: its last segment, capitalized. -/
def schemaName (url : Text) : Except UrlError Text := do
  let parts ← Path.routeSegments url
  let last := withoutDigits false ((parts.getLastD "Root").dropWhile (· == ':'))
  return Text.capitalized (if last.isEmpty then "Root" else last)

/-- Methods that send a body. -/
def sendsBody (method : Text) : Bool :=
  (["post", "put", "patch"] : List Text).contains (Text.lower method)

/-- An example of a value, its schema registered under a name. -/
def exampleOf (name : Text) (value : Json) (r : Registry) : Example × Registry :=
  let (schema, r) := r.infer name value
  (⟨schema, value⟩, r)

/-- The examples of a mock: what the request sends, and what the reply
holds. A mock without a body has an empty object to send. -/
def examples (method name : Text) (body : Json) (r : Registry) :
    Option Example × Option Example × Registry :=
  let noBody := Definition.isNull body
  let (request, r) :=
    if sendsBody method then
      let (e, r) := exampleOf (name ++ "Request") (if noBody then .obj [] else body) r
      (some e, r)
    else (none, r)
  if noBody then (request, none, r)
  else
    let (e, r) := exampleOf name body r
    (request, some e, r)

/-- Sets the operation of a method on a path. -/
def put (path verb : Text) (o : Operation) (d : Description) : Description :=
  let operations := (Fields.get? path d.paths).getD []
  { d with paths := Fields.put path (Fields.put verb o operations) d.paths }

/-- Describes an endpoint. Gives the operation, the description, which keeps
on failure what had been registered, and the draws that remain. -/
def add (g : Generator) (d : Description) (call : Call) (chance : Chance) :
    Except GenerationError Operation × Description × Chance :=
  let made : Except GenerationError (PathTemplate × Definition × Text × Chance) := do
    let template ← (PathTemplate.ofUrl call.url).mapError .url
    let (mock, chance) ← g.generate call.method call.url chance
    let name ← (schemaName call.url).mapError .url
    return (template, mock, name, chance)
  match made with
  | .error e => (.error e, d, chance)
  | .ok (template, mock, name, chance) =>
    let (request, reply, registry) := examples call.method name mock.body d.registry
    let d := { d with registry }
    match writeInteger mock.status with
    | .error e => (.error (.numeral e), d, chance)
    | .ok status =>
      let operation : Operation :=
        { method := call.method, path := template.text, parameters := template.parameters
          request, status, reply }
      (.ok operation, d.put template.text (Text.lower call.method) operation, chance)

/-- Describes endpoints one after another, up to the first failure. -/
def addAll (g : Generator) : Description → List Call → Chance →
    Except GenerationError (Description × Chance)
  | d, [], chance => .ok (d, chance)
  | d, call :: rest, chance =>
    match d.add g call chance with
    | (.ok _, d, chance) => addAll g d rest chance
    | (.error e, _, _) => .error e

/-- The paths of a description as an object. -/
def pathsJson (d : Description) : Json :=
  .obj (d.paths.map fun entry => (entry.1, .obj (entry.2.map fun o => (o.1, o.2.toJson))))

/-- A description as an object. -/
def toJson (d : Description) : Json :=
  .ofFields
    [("openapi", .ofString "3.0.3"),
     ("info", .ofFields
       [("title", (d.title.map Json.str).getD .null),
        ("description", .ofString "Auto-generated API documentation from MockGen"),
        ("version", .ofString "1.0.0")]),
     ("servers", .arr [.ofFields
       [("url", .str (if d.serverUrl.isEmpty then defaultServerUrl else d.serverUrl)),
        ("description", .ofString "Local Mock Server")]]),
     ("paths", d.pathsJson),
     ("components", .ofFields [("schemas", d.registry.toJson)])]

/-- The text of a description in a format. -/
def write (d : Description) : DescriptionFormat → Except NumeralError Text
  | .json => d.toJson.write .file
  | .yaml => Yaml.write d.toJson

end Description

end MockApi
