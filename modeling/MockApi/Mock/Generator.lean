/-
Making up the answer of an endpoint. A response given by the configuration
wins; otherwise the category of the URL and the method choose a status and a
body. A fresh id is drawn where a request creates something.

Nothing is drawn before the URL has been read, so a generation that fails
leaves the draws as they were.
-/
import MockApi.Chance
import MockApi.Config
import MockApi.Mock.Category
import MockApi.Mock.Definition
import MockApi.Mock.Resource

namespace MockApi

/-- Why no answer could be made up. -/
inductive GenerationError where
  | url (cause : UrlError)
  | numeral (cause : NumeralError)
  /-- A timestamp would lie past the end of the calendar. -/
  | pastCalendar
deriving DecidableEq, Repr

def GenerationError.ofResource : Resource.Error → GenerationError
  | .url cause => .url cause
  | .numeral cause => .numeral cause

/-- What the answers are made up from. -/
structure Generator where
  config : Config
  now : Moment

namespace Generator

/-- An object from literal fields. -/
def object (fields : List (String × Json)) : Json := .ofFields fields

def text (s : String) : Json := .ofString s

/-- The status of a response that the configuration gives as an object. -/
def templateStatus (fields : Fields) : Int :=
  match Fields.get? "status" fields with
  | some (.int n) => n
  | _ => 200

/-- The headers of a response that the configuration gives as an object. -/
def templateHeaders (fields : Fields) : Fields :=
  match Fields.get? "headers" fields with
  | some (.obj headers) => headers
  | _ => jsonHeaders

/-- The response that the configuration gives: an object with a body, or else
the body itself. -/
def fromTemplate (method : Text) (template : Json) : Definition :=
  match template with
  | .obj fields =>
    { method
      status := templateStatus fields
      headers := templateHeaders fields
      body := (Fields.get? "body" fields).getD template }
  | _ => { method, status := 200, headers := jsonHeaders, body := template }

/-- The greatest fresh id. -/
def greatestFreshId : Nat := 1000

/-- A fresh id. -/
def freshId (chance : Chance) : Int × Chance :=
  let (n, chance) := chance.between 1 greatestFreshId
  (n, chance)

/-- The id, unless it is missing or zero. -/
def orElse (id : Option Int) (other : Int) : Int :=
  match id with
  | some 0 => other
  | some n => n
  | none => other

/-- The body of plain reading and writing. -/
def crudBody (g : Generator) (method url : Text) (chance : Chance) :
    Except GenerationError (Json × Chance) := do
  let name ← (Resource.nameOf url).mapError .url
  let one (id : Int) : Fields := Resource.mock name id g.now
  let addressed : Except GenerationError Int := do
    let id ← (Resource.idOf? url).mapError .ofResource
    return orElse id 1
  if method = "GET" then
    if ← (Resource.isCollection url).mapError .url then
      return (.arr [.obj (one 1), .obj (one 2)], chance)
    return (.obj (one (← addressed)), chance)
  if method = "POST" then
    let (id, chance) := freshId chance
    return (.obj (Fields.put "created" (.bool true) (one id)), chance)
  let fields := one (← addressed)
  if method = "PUT" ∨ method = "PATCH" then
    return (.obj (Fields.put "updated" (.bool true) fields), chance)
  return (.obj fields, chance)

/-- Keywords that start a session. -/
def sessionKeywords : List Text :=
  ["login", "signin", "sign-in", "sign_in", "authenticate", "oauth"]

/-- Keywords that create an account. -/
def accountKeywords : List Text := ["register", "signup", "sign-up", "sign_up"]

/-- Keywords that end a session. -/
def endKeywords : List Text := ["logout", "signout", "sign-out", "sign_out"]

/-- What keywords about passwords start with. -/
def passwordPieces : List Text := ["forgot", "reset", "change"]

/-- Keywords that check something. -/
def checkKeywords : List Text := ["verify", "verification", "confirm"]

/-- The body of signing in and the like. -/
def authBody (g : Generator) (keyword : Text) (chance : Chance) :
    Except GenerationError (Json × Chance) :=
  let stamp := Json.str g.now.timestamp
  if sessionKeywords.contains keyword then
    match g.now.hourLater? with
    | none => .error .pastCalendar
    | some later => .ok (object
        [("token", text "mock-jwt-token"), ("refreshToken", text "mock-refresh-token"),
         ("user", object [("id", .int 1), ("name", text "John Doe"),
           ("email", text "john@example.com")]),
         ("expiresIn", .int 3600), ("expiresAt", .str later.timestamp)], chance)
  else if accountKeywords.contains keyword then
    let (id, chance) := freshId chance
    .ok (object
      [("id", .int id), ("name", text "John Doe"), ("email", text "john@example.com"),
       ("verified", .bool false),
       ("message", text "Registration successful. Please verify your email."),
       ("createdAt", stamp)], chance)
  else if endKeywords.contains keyword then
    .ok (object [("success", .bool true), ("message", text "Logged out successfully"),
      ("timestamp", stamp)], chance)
  else if passwordPieces.any (·.isPrefixOf keyword) then
    .ok (object [("success", .bool true),
      ("message", text "Password instructions processed successfully"),
      ("timestamp", stamp)], chance)
  else if checkKeywords.contains keyword then
    .ok (object [("success", .bool true), ("verified", .bool true), ("timestamp", stamp)], chance)
  else
    .ok (object [("success", .bool true), ("token", text "mock-jwt-token"),
      ("timestamp", stamp)], chance)

/-- Actions that change a thing's state: the state, and the name of the time
of the change. -/
def actionStates : List (Text × String × String) :=
  [("activate", "active", "activatedAt"), ("deactivate", "inactive", "deactivatedAt"),
   ("approve", "approved", "approvedAt"), ("reject", "rejected", "rejectedAt"),
   ("publish", "published", "publishedAt"), ("unpublish", "draft", "unpublishedAt"),
   ("archive", "archived", "archivedAt"), ("restore", "active", "restoredAt"),
   ("send", "sent", "sentAt"), ("cancel", "cancelled", "cancelledAt"),
   ("complete", "completed", "completedAt")]

/-- The body of an action. -/
def actionBody (g : Generator) (keyword url : Text) : Except GenerationError Json := do
  let stamp := Json.str g.now.timestamp
  let id ← (Resource.idOf? url).mapError .ofResource
  let id ←
    match id with
    | some 0 | none => (Resource.idBeforeAction? url).mapError .ofResource
    | some n => pure (some n)
  let id := orElse id 1
  match Fields.get? keyword actionStates with
  | some (state, time) =>
    return object [("id", .int id), ("status", text state), (time, stamp)]
  | none =>
    if keyword = "export" then
      return object [("success", .bool true),
        ("downloadUrl", Resource.withId "https://files.example.com/exports/export-" id ".csv"),
        ("expiresAt", stamp)]
    return object [("success", .bool true),
      ("message", .str (Text.capitalized keyword ++ " completed successfully")),
      ("timestamp", stamp)]

/-- The definition of the endpoint with a method and a URL. -/
def generate (g : Generator) (method url : Text) (chance : Chance) :
    Except GenerationError (Definition × Chance) := do
  let method := Text.upper method
  match g.config.templateFor url with
  | some template => return (fromTemplate method template, chance)
  | none =>
    let category := Category.ofUrl url
    let definition : Definition :=
      { method, status := category.status method, headers := jsonHeaders }
    if method = "DELETE" then return (definition, chance)
    let (body, chance) ←
      match category with
      | .auth keyword => g.authBody keyword chance
      | .action keyword => (g.actionBody keyword url).map fun body => (body, chance)
      | .crud => g.crudBody method url chance
    return ({ definition with body }, chance)

end Generator

end MockApi
