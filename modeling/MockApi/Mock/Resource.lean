/-
Resources: what a URL addresses, by its segments, and what a resource of
some name looks like. The name of a resource is its segment without a final
s; its shape is chosen by the first keyword that occurs in the name, and is
a plain one if none does.
-/
import MockApi.Json.Printer
import MockApi.Moment
import MockApi.Route.Path

namespace MockApi.Resource

-- ================================================= what a URL addresses

/-- The singular name of the resource that a URL addresses. -/
def nameOf (url : Text) : Except UrlError Text := do
  let parts ← Path.routeSegments url
  let parts := if parts.getLast?.any Path.isIdentity then parts.dropLast else parts
  let name := parts.getLastD []
  let name := if name.getLast? == some 's' then name.dropLast else name
  return if name.isEmpty then "resource" else name

/-- The digits that end a path behind a slash, a slash or a line break behind
them left out. -/
def finalDigits? (path : Text) : Option Text :=
  let back := path.reverse
  let back := if back.head? == some '\n' then back.drop 1 else back
  let back := if back.head? == some '/' then back.drop 1 else back
  let digits := back.takeWhile Text.isDigit
  if digits.isEmpty || (back.drop digits.length).head? != some '/' then none
  else some digits.reverse

/-- Why a URL's resource cannot be told. -/
inductive Error where
  | url (cause : UrlError)
  | numeral (cause : NumeralError)
deriving DecidableEq, Repr

/-- The number in the last segment. -/
def idOf? (url : Text) : Except Error (Option Int) := do
  let path ← (Path.routePattern url []).mapError .url
  (finalDigits? path).mapM fun digits => (readInteger digits).mapError .numeral

/-- The number in the last segment but one. -/
def idBeforeAction? (url : Text) : Except Error (Option Int) := do
  let parts ← (Path.routeSegments url).mapError .url
  match parts.dropLast.getLast? with
  | some part =>
    if Path.isNumeric part then some <$> (readInteger part).mapError .numeral else return none
  | none => return none

/-- The URL addresses all things of a kind and not one of them. -/
def isCollection (url : Text) : Except UrlError Bool :=
  (Path.routeSegments url).map fun parts => !parts.getLast?.any Path.isIdentity

-- ============================================================== shapes

/-- An amount of money, in hundredths. -/
def amount (hundredths : Nat) : Json := .float (.nearestDecimal false hundredths (-2))

/-- A text with the id in it. -/
def withId (front : Text) (id : Int) (back : Text) : Json :=
  .str (front ++ decimal id ++ back)

/-- An integer with zeros in front up to a width that counts the sign. -/
def zeroPadded (width : Nat) (n : Int) : Text :=
  match n with
  | .ofNat n => Text.padLeft '0' width (decimalOfNat n)
  | .negSucc n => '-' :: Text.padLeft '0' (width - 1) (decimalOfNat (n + 1))

/-- The fields of a shape from its literal keys. -/
def shape (fields : List (String × Json)) : Fields := fields.map fun f => (Text.ofString f.1, f.2)

def stamp (now : Moment) : Json := .str now.timestamp

def user (id : Int) (now : Moment) : Fields := shape
  [("id", .int id), ("name", .ofString "John Doe"), ("email", withId "user" id "@example.com"),
   ("role", .ofString "user"), ("active", .bool true), ("createdAt", stamp now)]

def product (id : Int) : Fields := shape
  [("id", .int id), ("title", withId "Sample Product " id ""),
   ("description", .ofString "A high quality sample product"), ("price", amount 4999),
   ("currency", .ofString "USD"), ("inStock", .bool true),
   ("sku", .str ("SKU-" ++ zeroPadded 5 id))]

/-- A line of an order or a cart. -/
def orderLine (quantity : Int) : Json := .obj <| shape
  [("productId", .int 1), ("quantity", .int quantity), ("price", amount 4999)]

def order (id : Int) (now : Moment) : Fields := shape
  [("id", .int id), ("userId", .int 1), ("items", .arr [orderLine 2]), ("total", amount 9998),
   ("status", .ofString "pending"), ("createdAt", stamp now)]

def post (id : Int) (now : Moment) : Fields := shape
  [("id", .int id), ("title", withId "Post " id ""),
   ("body", .ofString "Lorem ipsum dolor sit amet."), ("authorId", .int 1),
   ("published", .bool true), ("createdAt", stamp now)]

def comment (id : Int) (now : Moment) : Fields := shape
  [("id", .int id), ("postId", .int 1), ("authorId", .int 1), ("text", .ofString "Great post!"),
   ("createdAt", stamp now)]

def category (id : Int) : Fields := shape
  [("id", .int id), ("name", withId "Category " id ""), ("slug", withId "category-" id ""),
   ("parentId", .null)]

def file (id : Int) (now : Moment) : Fields := shape
  [("id", .int id), ("filename", withId "document-" id ".pdf"),
   ("mimeType", .ofString "application/pdf"), ("size", .int 102400),
   ("url", withId "https://files.example.com/document-" id ".pdf"), ("uploadedAt", stamp now)]

def notice (id : Int) (now : Moment) : Fields := shape
  [("id", .int id), ("type", .ofString "info"), ("message", .ofString "You have a new message"),
   ("read", .bool false), ("createdAt", stamp now)]

def payment (id : Int) (now : Moment) : Fields := shape
  [("id", .int id), ("orderId", .int 1), ("amount", amount 9998), ("currency", .ofString "USD"),
   ("method", .ofString "card"), ("status", .ofString "succeeded"), ("paidAt", stamp now)]

def address (id : Int) : Fields := shape
  [("id", .int id), ("street", .ofString "123 Main St"), ("city", .ofString "Springfield"),
   ("state", .ofString "IL"), ("postalCode", .ofString "62701"), ("country", .ofString "US")]

def review (id : Int) (now : Moment) : Fields := shape
  [("id", .int id), ("productId", .int 1), ("userId", .int 1), ("rating", .int 5),
   ("comment", .ofString "Excellent!"), ("createdAt", stamp now)]

def cart (id : Int) (now : Moment) : Fields := shape
  [("id", .int id), ("userId", .int 1), ("items", .arr [orderLine 1]), ("total", amount 4999),
   ("updatedAt", stamp now)]

/-- The shapes by the keyword in the resource's name, in order of preference. -/
def shapes : List (Text × (Int → Moment → Fields)) :=
  [("user", user), ("profile", user), ("product", fun id _ => product id), ("order", order),
   ("post", post), ("comment", comment), ("categor", fun id _ => category id), ("file", file),
   ("notification", notice), ("payment", payment), ("address", fun id _ => address id),
   ("review", review), ("cart", cart)]

/-- The shape of a resource that no keyword tells. -/
def plain (name : Text) (id : Int) (now : Moment) : Fields := shape
  [("id", .int id), ("name", .str (Text.capitalized name ++ " " ++ decimal id)),
   ("description", .str ("Mock " ++ name)), ("createdAt", stamp now),
   ("updatedAt", stamp now)]

/-- The shape that a name chooses. -/
def shapeFor? (name : Text) : Option (Text × (Int → Moment → Fields)) :=
  shapes.find? fun entry => Text.hasPiece entry.1 (Text.lower name)

/-- A resource of a name with an id. -/
def mock (name : Text) (id : Int) (now : Moment) : Fields :=
  match shapeFor? name with
  | some (_, build) => build id now
  | none => plain name id now

end MockApi.Resource
