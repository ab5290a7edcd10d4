/-
Responses: a status, header lines and a body. A definition's headers come
first, in lower case, without those that the framing decides; then come the
length and the type of the body. Statuses that carry no body have neither.

Header lines hold characters of one byte only, so a definition's header can
make a response impossible.
-/
import MockApi.Mock.Definition
import MockApi.Text.Utf8

namespace MockApi

/-- An answer on the wire. -/
structure Response where
  status : Int
  headers : List (Text × Text)
  body : Text
deriving DecidableEq, Repr

/-- Why a request was not answered. -/
inductive RequestError where
  | numeral (cause : NumeralError)
  /-- A header holds a character of more than one byte. -/
  | unencodableHeader
  /-- The body holds the half of a surrogate pair. -/
  | unencodableBody
  /-- The request's body is nested too deeply. -/
  | tooDeep
deriving DecidableEq, Repr

namespace Response

/-- Headers that the framing decides. -/
def framingHeaders : List Text := ["content-length", "transfer-encoding", "connection"]

def contentType : Text := "content-type"

/-- Statuses that are sent without a body. -/
def hasNoBody (status : Int) : Bool := status == 204 || status == 304

/-- Statuses whose body is sent with its length. -/
def hasLength (status : Int) : Bool := !(status < 200 || hasNoBody status)

/-- All characters take one byte. -/
def isSingleByte (t : Text) : Bool := t.all (·.toNat < 0x100)

/-- A header value as text. -/
def valueText (v : Json) : Text :=
  match v with
  | .str t => t
  | v => v.shown .braces

/-- The definition's own header lines, in lower case. -/
def ownHeaders (headers : Fields) : List (Text × Text) :=
  (headers.filter fun h =>
    let name := Text.lower h.1
    !framingHeaders.contains name && name != contentType).map fun h =>
    (Text.lower h.1, valueText h.2)

/-- The type that the definition's headers name, else that of JSON. -/
def typeOf (headers : Fields) : Text :=
  match headers.find? fun h => Text.lower h.1 == contentType with
  | some h => valueText h.2
  | none => "application/json"

/-- The type as it is sent: a text names its character set. -/
def sentType (type : Text) : Text :=
  if ("text/" : Text).isPrefixOf type && !Text.hasPiece "charset=" (Text.lower type) then
    type ++ "; charset=utf-8"
  else type

/-- Whether all header lines can be sent. -/
def areEncodable (headers : List (Text × Text)) : Bool :=
  headers.all fun h => isSingleByte h.1 && isSingleByte h.2

/-- The line with the number of bytes of a body. -/
def lengthLine (body : Text) : Text × Text :=
  ("content-length", decimalOfNat (Utf8.size body))

/-- The line with the type of a body. -/
def typeLine (type : Text) : Text × Text := (contentType, type)

/-- Builds a response from a definition's parts; no headers stand for those
of JSON, and a null body for an empty object. -/
def build (status : Int) (headers : Fields) (body : Json) : Except RequestError Response := do
  let headers := if headers.isEmpty then jsonHeaders else headers
  if hasNoBody status then
    let lines := ownHeaders headers
    if areEncodable lines then return { status, headers := lines, body := [] }
    else throw .unencodableHeader
  else
    let body := if Definition.isNull body then .obj [] else body
    let text ← (body.write .body).mapError .numeral
    let lines := ownHeaders headers
      ++ (if hasLength status then [lengthLine text] else [])
      ++ [typeLine (sentType (typeOf headers))]
    if areEncodable lines then return { status, headers := lines, body := text }
    else throw .unencodableHeader

/-- An answer that the server makes up itself. -/
def own (status : Int) (body : Json) : Response :=
  let text := body.text .tight
  { status, body := text
    headers := [lengthLine text, typeLine "application/json"] }

/-- The answer to a request that no route answers. -/
def notFound (method path : Text) : Except RequestError Response :=
  let r := own 404 <| .ofFields
    [("error", .ofString "Mock not found"), ("method", .str method), ("path", .str path)]
  if (Utf8.encode? r.body).isSome then .ok r else .error .unencodableBody

/-- The answer to a method that is not served at all, with those that are. -/
def methodNotAllowed (allowed : List Text) : Response :=
  let r := own 405 <| .ofFields [("detail", .ofString "Method Not Allowed")]
  { r with headers := ("allow", Text.join ", " allowed) :: r.headers }

/-- The answer to a path that the app does not take at all. -/
def noRoute : Response := own 404 <| .ofFields [("detail", .ofString "Not Found")]

/-- The answer that leads to another address. -/
def redirect (location : Text) : Response :=
  { status := 307, headers := [lengthLine [], ("location", location)], body := [] }

/-- The answer to a question about options. -/
def noContent : Response := { status := 204, headers := [], body := [] }

/-- The lines that let any page read an answer. -/
def accessHeaders : List (Text × Text) :=
  [("access-control-allow-origin", "*"), ("access-control-allow-methods", "*"),
   ("access-control-allow-headers", "*")]

/-- Sets a header line: the first of the name in its place, all others of the
name left out; at the end if there is none. -/
def setHeader (name value : Text) (headers : List (Text × Text)) : List (Text × Text) :=
  match headers with
  | [] => [(name, value)]
  | (n, v) :: rest =>
    if n = name then (name, value) :: rest.filter (·.1 != name)
    else (n, v) :: setHeader name value rest

/-- The response with the lines that let any page read it. -/
def withAccess (r : Response) : Response :=
  { r with headers := accessHeaders.foldl (fun hs h => setHeader h.1 h.2 hs) r.headers }

end Response

end MockApi
