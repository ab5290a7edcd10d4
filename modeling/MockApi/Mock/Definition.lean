/-
Mock definitions: what a route answers. A definition has a method, a status,
headers and a body; beside the body it may hold alternative bodies, or whole
replies, of which one is drawn for each request. A stateful definition
records the bodies it makes instead.

`Definition.ofJson` reads an entry of a mock bundle and refuses what is no
usable definition; `Definition.toJson` writes one. An entry decides how its
objects are displayed, be it in a header's value or in a refusal.
-/
import MockApi.Json.Display
import MockApi.Text.Case

namespace MockApi

/-- One whole reply. -/
structure Reply where
  status : Int
  headers : Fields
  body : Json

/-- What a route answers. A null body is no body. -/
structure Definition where
  method : Text
  status : Int
  headers : Fields
  body : Json := .null
  alternatives : Option (List Json) := none
  stateful : Bool := false
  replies : Option (List Reply) := none

/-- Why an entry of a bundle is no definition. -/
inductive DefinitionError where
  | notObject (kind : Text)
  | noMethod
  | invalidStatus (shown : Text)
  | headersNotObject
  | noAlternatives
  | noReplies
  | replyNotObject
  | numeral (cause : NumeralError)
deriving DecidableEq, Repr

def DefinitionError.message : DefinitionError → Text
  | notObject kind => "definition must be an object, got " ++ kind
  | noMethod => "definition has no method"
  | invalidStatus shown => "invalid status " ++ shown
  | headersNotObject => "headers must be an object"
  | noAlternatives => "alternatives must be a non-empty array"
  | noReplies => "responses must be a non-empty array"
  | replyNotObject => "responses entries must be objects"
  | numeral cause => cause.message

/-- The headers of a reply that names none. -/
def jsonHeaders : Fields := [("content-type", .ofString "application/json")]

/-- The least and the greatest status of a reply. -/
def isStatus (n : Int) : Bool := 100 ≤ n && n ≤ 599

namespace Definition

/-- A status in its range. -/
def checkStatus (style : ObjectStyle) (v : Json) : Except DefinitionError Int :=
  let refuse := ((v.display style).mapError .numeral).bind fun shown =>
    .error (.invalidStatus shown)
  match v with
  | .int n => if isStatus n then .ok n else refuse
  | _ => refuse

/-- Header values as plain text. -/
def plainValues (style : ObjectStyle) : Fields → Except DefinitionError Fields
  | [] => .ok []
  | (name, value) :: rest => do
    let text ← (value.plain style).mapError .numeral
    let rest ← plainValues style rest
    return (name, .str text) :: rest

/-- Headers with plain text as values; without any, those of a JSON body. -/
def checkHeaders (style : ObjectStyle) (v : Option Json) : Except DefinitionError Fields :=
  match v with
  | none | some .null => .ok jsonHeaders
  | some (.obj fields) => plainValues style fields
  | some _ => .error .headersNotObject

/-- An array with at least one item, if there is any. -/
def checkArray (e : DefinitionError) (v : Option Json) :
    Except DefinitionError (Option (List Json)) :=
  match v with
  | none | some .null => .ok none
  | some (.arr (item :: rest)) => .ok (some (item :: rest))
  | some _ => .error e

/-- The fields of every item, which must be an object. -/
def objects : List Json → Except DefinitionError (List Fields)
  | [] => .ok []
  | .obj fields :: rest => (objects rest).map (fields :: ·)
  | _ :: _ => .error .replyNotObject

/-- A whole reply; without a body it has an empty object. -/
def replyOf (style : ObjectStyle) (fields : Fields) : Except DefinitionError Reply := do
  let status ← checkStatus style ((Fields.get? "status" fields).getD (.int 200))
  let headers ← checkHeaders style (Fields.get? "headers" fields)
  return { status, headers, body := (Fields.get? "body" fields).getD (.obj []) }

/-- The status of a definition that names none. -/
def defaultStatus (stateful : Bool) : Int := if stateful then 201 else 200

/-- The definition with the given fields. -/
def ofFields (style : ObjectStyle) (fields : Fields) : Except DefinitionError Definition := do
  let method ←
    match Fields.get? "method" fields with
    | some (.str (c :: rest)) => pure (c :: rest)
    | _ => throw .noMethod
  let stateful := (Fields.get? "stateful" fields).any (·.isSet)
  let standard : Json := .int (defaultStatus stateful)
  let status ← checkStatus style ((Fields.get? "status" fields).getD standard)
  let headers ← checkHeaders style (Fields.get? "headers" fields)
  let alternatives ← checkArray .noAlternatives (Fields.get? "alternatives" fields)
  let entries ← checkArray .noReplies (Fields.get? "responses" fields)
  let replies ← entries.mapM fun items => do
    let objects ← objects items
    objects.mapM (replyOf style)
  return {
    method := Text.upper method
    status, headers, alternatives, stateful, replies
    body := (Fields.get? "body" fields).getD .null }

/-- Reads an entry of a bundle. -/
def ofJson (style : ObjectStyle) (entry : Json) : Except DefinitionError Definition :=
  match entry with
  | .obj fields => ofFields style fields
  | other => .error (.notObject other.kindName)

/-- A reply as an object. -/
def replyJson (r : Reply) : Json :=
  .ofFields [("status", .int r.status), ("headers", .obj r.headers), ("body", r.body)]

/-- The value is null. -/
def isNull : Json → Bool
  | .null => true
  | _ => false

/-- The entry of a bundle; a field that says nothing is left out. -/
def toJson (d : Definition) : Json :=
  .ofFields <|
    [("method", .str d.method), ("status", .int d.status), ("headers", .obj d.headers)]
    ++ (if isNull d.body then [] else [("body", d.body)])
    ++ (d.alternatives.map fun items => ("alternatives", Json.arr items)).toList
    ++ (d.replies.map fun replies => ("responses", Json.arr (replies.map replyJson))).toList
    ++ (if d.stateful then [("stateful", .bool true)] else [])

end Definition

end MockApi
