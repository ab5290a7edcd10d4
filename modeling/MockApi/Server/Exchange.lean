/-
Requests off the wire. The app has one route, which takes any path behind a slash
and seven methods. What it does not take never reaches the server: a framework
answers it, and the server is as it was. Of what it takes the body is read, and
then the request is dispatched; whoever answers, the answer carries the lines
that let any page read it.
-/
import MockApi.Json.Encoding
import MockApi.Server.Dispatch
import MockApi.Url

namespace MockApi

/-- A request off the wire, with the escapes of its path decoded. -/
structure WireRequest where
  method : Text
  /-- The scheme and the host that the request was sent to. -/
  origin : Text
  path : Text
  /-- What stands behind the question mark, with its escapes. -/
  query : Text := []
  body : Bytes := []

-- ============================================================== addresses

namespace Address

/-- Marks that stand for themselves in an address. -/
def marks : Text := ":/%#?=@[]!$&'()*+,;_.-~"

/-- A byte of an address: itself, or its number behind a percent sign. -/
def escapedByte (b : UInt8) : Text :=
  let c : CodePoint := Char.ofNat b.toNat
  if Text.isAsciiLetter c || Text.isAsciiDigit c || marks.contains c then [c]
  else '%' :: Text.upper (Text.hex 2 b.toNat)

/-- An address in the bytes that may be sent of one. The half of a surrogate
pair has none. -/
def escaped? (address : Text) : Option Text :=
  (Utf8.encode? address).map (·.flatMap escapedByte)

/-- The path that an address holds once this path is put into it: what ends a path
there ends it, and what does not count there is left out. -/
def pathWithin (path : Text) : Text :=
  Text.before '?' (Text.before '#' (path.filter (!Url.isIgnored ·)))

end Address

-- =============================================================== the route

namespace WireRequest

/-- The path is one that the route takes: a slash, and behind it anything without
a line feed, but for one that ends the path. -/
def isRouted (path : Text) : Bool :=
  match path with
  | .char '/' :: rest => !rest.dropLast.contains '\n'
  | _ => false

/-- The path without the slashes at its end, or with one if it has none. -/
def withOtherEnd (path : Text) : Text :=
  if path.getLast? = some '/' then (path.reverse.dropWhile (· == .char '/')).reverse
  else path ++ "/"

/-- The address of another path on the same host, with the query. -/
def addressOf (r : WireRequest) (path : Text) : Text :=
  r.origin ++ path ++ if r.query.isEmpty then [] else .char '?' :: r.query

/-- The answer to a request that the route does not take: where it takes the path
with another end, the way there. -/
def unrouted (r : WireRequest) : Except RequestError Response :=
  let path := withOtherEnd r.path
  if isRouted path then
    match Address.escaped? (r.addressOf path) with
    | some location => .ok (Response.redirect location)
    | none => .error .unencodableHeader
  else .ok Response.noRoute

end WireRequest

-- =============================================================== exchanges

namespace Server

/-- Methods that are served. The framework holds them in a set, so where they are
listed in an answer, their order is any. -/
def servedMethods : List Text := ["GET", "POST", "PUT", "PATCH", "DELETE", "HEAD", "OPTIONS"]

/-- Answers a request that the route takes: its method must be served, its body is
read, and a question about options does not get as far as the routes of the server. -/
def handle [JsonReader] (s : Server) (r : WireRequest) :
    Except RequestError Response × Server × Log :=
  if !servedMethods.contains r.method then (.ok (Response.methodNotAllowed servedMethods), s, [])
  else
    match Json.ofBytes r.body (.obj []) with
    | .error _ => (.error .tooDeep, s, [])
    | .ok body =>
      if Text.upper r.method = "OPTIONS" then (.ok Response.noContent, s, [])
      else s.dispatch { method := r.method, path := Address.pathWithin r.path, body }

/-- Answers a request off the wire. -/
def exchange [JsonReader] (s : Server) (r : WireRequest) :
    Except RequestError Response × Server × Log :=
  let (response, s, log) :=
    if WireRequest.isRouted r.path then s.handle r else (r.unrouted, s, [])
  (response.map Response.withAccess, s, log)

end Server

end MockApi
