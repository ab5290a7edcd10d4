/-
Route tables. A route is a pattern with its definition, and a table is an
ordered list of routes: the first route whose method and pattern fit answers
a request, however special a later one is. A request to read that no route
answers goes to the first stateful route on its path, which plays back what
it recorded.
-/
import MockApi.Log
import MockApi.Mock.Bundle

namespace MockApi

/-- A pattern bound to its definition. -/
structure Route where
  pattern : Text
  definition : Definition

/-- The routes in order of priority. -/
abbrev RouteTable := List Route

namespace Route

/-- The route answers requests of the method on the path. -/
def answers (r : Route) (method path : Text) : Bool :=
  r.definition.method == method && Path.fits r.pattern path

/-- The route plays back what it recorded on the path. -/
def replays (r : Route) (path : Text) : Bool :=
  r.definition.stateful && Path.fits r.pattern path

/-- A bundle's key without the method in front of its path. -/
def withoutMethod (key : Text) : Text :=
  let letters := key.takeWhile Text.isAsciiLetter
  let behind := key.drop letters.length
  let rest := behind.dropWhile Text.isBlank
  if !letters.isEmpty && rest.length < behind.length && rest.head? == some '/' then rest else key

/-- The pattern of a bundle's key. -/
def patternOfKey (key : Text) : Text := Path.canonical (withoutMethod key)

end Route

namespace RouteTable

/-- The route of a bundle's entry. -/
def routeOf (style : ObjectStyle) (key : Text) (entry : Json) : Except DefinitionError Route :=
  (Definition.ofJson style entry).map fun definition => ⟨Route.patternOfKey key, definition⟩

/-- What is reported of an entry that is left out. -/
def skipped (key : Text) (cause : DefinitionError) : LogLine :=
  .warning ("Skipping mock '" ++ key ++ "': " ++ cause.message)

/-- The table of a bundle's entries in their order; an entry that is no
definition is left out and reported. -/
def ofEntries (style : ObjectStyle) : Fields → RouteTable × Log
  | [] => ([], [])
  | (key, entry) :: rest =>
    let (routes, log) := ofEntries style rest
    match routeOf style key entry with
    | .ok route => (route :: routes, log)
    | .error cause => (routes, skipped key cause :: log)

/-- What a look-up found. -/
inductive Found where
  /-- A route answers the request. -/
  | answer (index : Nat) (route : Route)
  /-- A stateful route plays back. -/
  | replay (index : Nat) (route : Route)
  | nothing

/-- The first route with a property, with its place. -/
def first? (p : Route → Bool) : RouteTable → Option (Nat × Route)
  | [] => none
  | r :: rest =>
    if p r then some (0, r) else (first? p rest).map fun found => (found.1 + 1, found.2)

/-- Looks up a request whose method is in upper case and whose path is
canonical. -/
def lookUp (table : RouteTable) (method path : Text) : Found :=
  match first? (·.answers method path) table with
  | some (index, route) => .answer index route
  | none =>
    if method = "GET" then
      match first? (·.replays path) table with
      | some (index, route) => .replay index route
      | none => .nothing
    else .nothing

/-- Looks up a request. -/
def find (table : RouteTable) (method path : Text) : Found :=
  lookUp table (Text.upper method) (Path.canonical path)

namespace Found

/-- The route that was found. -/
def route? : Found → Option Route
  | answer _ route | replay _ route => some route
  | nothing => none

/-- The place of the route that was found. -/
def index? : Found → Option Nat
  | answer index _ | replay index _ => some index
  | nothing => none

/-- Why a request was given what it was given. -/
def reason (method path : Text) : Found → Text
  | answer .. => "Pattern match"
  | replay .. => "Stateful replay"
  | nothing =>
    "No mock for " ++ Text.upper method ++ " " ++ Path.canonical path

end Found

end RouteTable

end MockApi
