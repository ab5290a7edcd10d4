/-
What an endpoint is for, told from its URL: signing in and the like, an
action on a thing, or plain reading and writing. Keywords decide, those of
signing in before those of actions, and within a list the earlier ones
first.

A keyword hits as a whole word anywhere in front of the query, or as any
piece of one of the last two segments.
-/
import MockApi.Route.Path

namespace MockApi

/-- What an endpoint is for, with the keyword that told it. -/
inductive Category where
  | auth (keyword : Text)
  | action (keyword : Text)
  | crud
deriving DecidableEq, Repr

namespace Category

def authKeywords : List Text :=
  ["login", "signin", "sign-in", "sign_in",
   "logout", "signout", "sign-out", "sign_out",
   "register", "signup", "sign-up", "sign_up",
   "forgot-password", "forgot_password", "forgot",
   "reset-password", "reset_password", "reset",
   "change-password", "change_password",
   "verify", "verification", "confirm",
   "refresh-token", "refresh_token", "refresh",
   "authenticate", "oauth", "otp", "2fa", "mfa"]

def actionKeywords : List Text :=
  ["deactivate", "activate", "approve", "reject", "publish", "unpublish",
   "archive", "restore", "send", "export", "import", "cancel", "complete",
   "assign", "duplicate", "upload", "download", "sync"]

/-- A letter or digit that a keyword as a whole word has on neither side. -/
def extendsWord (c : CodePoint) : Bool := ('a' ≤ c && c ≤ 'z') || ('0' ≤ c && c ≤ '9')

/-- The keyword stands at the front of the text and ends a word there. -/
def wordAtFront (keyword text : Text) : Bool :=
  match Text.afterPiece? keyword text with
  | none => false
  | some rest => !rest.head?.any extendsWord

/-- The keyword stands as a whole word in a text that comes after `previous`. -/
def hasWordAfter (keyword : Text) (previous : Option CodePoint) : Text → Bool
  | [] => !previous.any extendsWord && wordAtFront keyword []
  | c :: rest =>
    (!previous.any extendsWord && wordAtFront keyword (c :: rest))
      || hasWordAfter keyword (some c) rest

/-- The part of a URL that is looked at: lower case, without the query. -/
def searched (url : Text) : Text := Text.before '?' (Text.lower url)

/-- The last two segments. -/
def tail (searched : Text) : List Text :=
  let segments := Path.segments searched
  segments.drop (segments.length - 2)

/-- The keyword hits the URL. -/
def hits (url keyword : Text) : Bool :=
  hasWordAfter keyword none (searched url) || (tail (searched url)).any (Text.hasPiece keyword)

/-- What the endpoint at a URL is for. -/
def ofUrl (url : Text) : Category :=
  match authKeywords.find? (hits url), actionKeywords.find? (hits url) with
  | some keyword, _ => .auth keyword
  | none, some keyword => .action keyword
  | none, none => .crud

/-- The status that answers a method. -/
def status (category : Category) (method : Text) : Int :=
  let method := Text.upper method
  if method = "DELETE" then 204
  else if method = "POST" then if category = .crud then 201 else 200
  else 200

end Category

end MockApi
