/-
Body templates. A string of a template may hold placeholders between double
braces: `auto` stands for the next id of the server, one for the whole body,
and `body.` with a dotted path stands for a field of the request. Anything
else between the braces is refused, before an id is taken.

A string is read once into its pieces, plain text and holes; checking,
asking for an id and filling are functions of the pieces, so text that a
request brings in is never read again.
-/
import MockApi.Json.Printer
import MockApi.Text.Blank
import MockApi.Text.Word

namespace MockApi.Template

/-- What a placeholder stands for. -/
inductive Placeholder where
  /-- The id of the record. -/
  | auto
  /-- A field of the request by its path. -/
  | field (path : List Text)
  /-- Nothing that is known. -/
  | unknown
deriving DecidableEq, Repr

/-- A piece of a template string. -/
inductive Piece where
  | plain (c : CodePoint)
  /-- A placeholder as it is written, braces included. -/
  | hole (written : Text) (placeholder : Placeholder)
deriving DecidableEq, Repr

-- ============================================================= reading

/-- A character that no placeholder holds. -/
def isBrace (c : CodePoint) : Bool := c == '{' || c == '}'

/-- Starts the first name of a path. -/
def startsName (c : CodePoint) : Bool := Text.isAsciiLetter c || c == '_' || c == '$'

/-- Starts a later name of a path. -/
def startsLaterName (c : CodePoint) : Bool := startsName c || Text.isAsciiDigit c

/-- Continues a name. -/
def continuesName (c : CodePoint) : Bool := Text.isWord c || c == '$' || c == '-'

/-- A name with the given start. -/
def isName (starts : CodePoint → Bool) : Text → Bool
  | [] => false
  | c :: rest => starts c && rest.all continuesName

/-- A path of names. -/
def isPath : List Text → Bool
  | [] => false
  | first :: later => isName startsName first && later.all (isName startsLaterName)

/-- The most characters a placeholder's name may have. -/
def nameLimit : Nat := 256

/-- The placeholder of a name. -/
def placeholder (name : Text) : Placeholder :=
  if name = "auto" then .auto
  else
    match Text.afterPiece? "body." name with
    | none => .unknown
    | some path =>
      let names := Text.splitOn '.' path
      if isPath names then .field names else .unknown

/-- The placeholder that a text starts with: what it says between the braces
without the blanks around it, and the text behind it. -/
def hole? (t : Text) : Option (Text × Text) :=
  match t with
  | .char '{' :: .char '{' :: rest =>
    let inside := rest.takeWhile (!isBrace ·)
    match rest.drop inside.length with
    | .char '}' :: .char '}' :: behind =>
      let name := Text.trim inside
      if name.length ≤ nameLimit then some (name, behind) else none
    | _ => none
  | _ => none

/-- The pieces of a text of at most so many characters. -/
def piecesFrom (fuel : Nat) (t : Text) : List Piece :=
  match fuel, t with
  | 0, _ => []
  | _, [] => []
  | fuel + 1, c :: rest =>
    match hole? (c :: rest) with
    | some (name, behind) =>
      .hole ((c :: rest).take (rest.length + 1 - behind.length)) (placeholder name)
        :: piecesFrom fuel behind
    | none => .plain c :: piecesFrom fuel rest

/-- The pieces of a template string. -/
def pieces (t : Text) : List Piece := piecesFrom t.length t

/-- The pieces of all strings of a template. -/
def allPieces (template : Json) : List Piece := template.strings.flatMap pieces

-- ============================================================= filling

/-- The placeholder as it is written, if it stands for nothing known. -/
def Piece.unknown? : Piece → Option Text
  | hole written .unknown => some written
  | _ => none

/-- The first placeholder of a template that stands for nothing known. -/
def firstUnknown? (template : Json) : Option Text := (allPieces template).findSome? Piece.unknown?

def Piece.isAuto : Piece → Bool
  | hole _ .auto => true
  | _ => false

/-- The template needs an id. -/
def usesAuto (template : Json) : Bool := (allPieces template).any Piece.isAuto

/-- The value at a path of a request; null if there is none. -/
def lookUp (request : Json) : List Text → Json
  | [] => request
  | name :: later =>
    match request.field? name with
    | some value => lookUp value later
    | none => .null

/-- The text that a value of a request contributes. -/
def valueText : Json → Except NumeralError Text
  | .null => .ok []
  | .str t => .ok t
  | v => v.write .body

/-- The text of a piece, given the id of the record. -/
def Piece.fill (id : Int) (request : Json) : Piece → Except NumeralError Text
  | plain c => .ok [c]
  | hole _ .auto => writeInteger id
  | hole _ (.field path) => valueText (lookUp request path)
  | hole written .unknown => .ok written

/-- The text of pieces one after another. -/
def fillPieces (id : Int) (request : Json) : List Piece → Except NumeralError Text
  | [] => .ok []
  | piece :: rest => do
    let front ← piece.fill id request
    let back ← fillPieces id request rest
    return front ++ back

mutual

/-- The template with its strings filled. -/
def fill (id : Int) (request : Json) : Json → Except NumeralError Json
  | .str t => (fillPieces id request (pieces t)).map .str
  | .arr items => (fillItems id request items).map .arr
  | .obj fields => (fillFields id request fields).map .obj
  | v => .ok v

def fillItems (id : Int) (request : Json) : List Json → Except NumeralError (List Json)
  | [] => .ok []
  | item :: rest => do
    let item ← fill id request item
    let rest ← fillItems id request rest
    return item :: rest

def fillFields (id : Int) (request : Json) :
    List (Text × Json) → Except NumeralError (List (Text × Json))
  | [] => .ok []
  | (key, value) :: rest => do
    let value ← fill id request value
    let rest ← fillFields id request rest
    return (key, value) :: rest

end

/-- Why a template was not rendered. -/
inductive Error where
  | unknownPlaceholder (written : Text)
  | numeral (cause : NumeralError)
deriving DecidableEq, Repr

/-- The text of the refusal of a placeholder. -/
def unknownMessage (written : Text) : Text :=
  "Unknown placeholder '" ++ written ++ "'"

/-- Renders a template for a request, given the next id; returns the next id
afterwards too. -/
def render (template request : Json) (nextId : Int) : Except Error Json × Int :=
  match firstUnknown? template with
  | some written => (.error (.unknownPlaceholder written), nextId)
  | none =>
    ((fill nextId request template).mapError .numeral,
      if usesAuto template then nextId + 1 else nextId)

end MockApi.Template
