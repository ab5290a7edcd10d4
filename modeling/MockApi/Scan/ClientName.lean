/-
The names under which a file calls HTTP clients. Names bound to a client are
collected from the file's text; other names tell by their ending that they
are clients. A name of the client library itself is neither.
-/
import MockApi.Scan.Dialect
import MockApi.Scan.Lexeme

namespace MockApi

-- ============================================================ aliases

namespace Alias

open Pattern Lexeme

def bound (p : Pattern) : Pattern := part .name p

/-- A word that declares a variable. -/
def declaration : Pattern := oneOf ["const", "let", "var"]

/-- The client library's name as a module. -/
def clientModule : Pattern := charIn "\x27\"" ++ "axios" ++ charIn "\x27\""

/-- A type behind a variable's name. -/
def typeAnnotation : Pattern :=
  ":" ++ blanks ++ run (fun c => isNameChar c || c == '.' || c == '<' || c == '>') 1 (some 64)
    ++ blanks

/-- A variable that holds a new instance. -/
def newInstance : Pattern :=
  declaration ++ someBlanks ++ bound scriptName ++ blanks ++ maybe typeAnnotation ++ "=" ++ blanks
    ++ "axios.create" ++ blanks ++ "("

/-- Braces with what else a module gives. -/
def namedImports : Pattern :=
  "," ++ blanks ++ char (· == '{') ++ run (fun c => !(c == '{' || c == '}')) 0 (some 512)
    ++ char (· == '}') ++ blanks

/-- The library's default export under another name. -/
def defaultImport : Pattern :=
  "import" ++ someBlanks ++ bound scriptName ++ blanks ++ maybe namedImports ++ "from" ++ blanks
    ++ clientModule

/-- All that the library exports under one name. -/
def wholeImport : Pattern :=
  "import" ++ someBlanks ++ "*" ++ someBlanks ++ "as" ++ someBlanks ++ bound scriptName
    ++ someBlanks ++ "from" ++ blanks ++ clientModule

/-- A variable that holds the library. -/
def required : Pattern :=
  declaration ++ someBlanks ++ bound scriptName ++ blanks ++ "=" ++ blanks ++ "require" ++ blanks
    ++ "(" ++ blanks ++ clientModule ++ blanks ++ ")"

/-- A class of sessions. -/
def sessionClass : Pattern :=
  either "requests.Session" ("httpx." ++ maybe "Async" ++ "Client")

/-- A variable that holds a new session. -/
def newSession : Pattern :=
  bound plainName ++ blanks ++ "=" ++ blanks ++ sessionClass ++ blanks ++ "("

/-- A session that lives for a block. -/
def scopedSession : Pattern :=
  sessionClass ++ blanks ++ "(" ++ run (fun c => !(c == '(' || c == ')' || c == '\n')) 0 (some 256)
    ++ ")" ++ someBlanks ++ "as" ++ someBlanks ++ bound plainName

/-- A library under another name. -/
def renamedImport : Pattern :=
  "import" ++ someBlanks ++ oneOf ["requests", "httpx"] ++ someBlanks ++ "as" ++ someBlanks
    ++ bound plainName

/-- What binds a name to a client in a dialect. -/
def patterns : Dialect → List Pattern
  | .javascript => [newInstance, defaultImport, wholeImport, required]
  | .python => [newSession, scopedSession, renamedImport]
  | _ => []

/-- The names that a file binds to clients, each once. -/
def namesIn (dialect : Dialect) (text : Text) : List Text :=
  let found := (patterns dialect).flatMap fun p =>
    (p.matchesIn (.ofText text)).map fun m => m.get .name
  found.eraseDups.filter fun name => !dialect.clientLibraries.contains name

end Alias

-- ============================================================== names

/-- The client names that hold in a file. -/
structure ClientNames where
  libraries : List Text
  aliases : List Text

namespace ClientNames

/-- The client names of a file. -/
def ofText (dialect : Dialect) (text : Text) : ClientNames :=
  ⟨dialect.clientLibraries, Alias.namesIn dialect text⟩

/-- The object without the receiver of its own class. -/
def withoutThis (object : Text) : Text := (Text.afterPiece? "this." object).getD object

/-- A name bound to a client. -/
def isAlias (names : ClientNames) (object : Text) : Bool := names.aliases.contains object

/-- What the names of clients end with. -/
def clientEndings : List Text :=
  ["api", "Api", "API", "client", "Client", "http", "Http", "HTTP"]

/-- A script name, not too long. -/
def isShortName (t : Text) : Bool :=
  t.head?.any Lexeme.startsScriptName && t.all Lexeme.isNameChar && t.length ≤ 64

/-- May stand before the ending of a client's name. -/
def isClientFront (t : Text) : Bool :=
  t.isEmpty || isShortName t || (t.head? == some '$' && isShortName (t.drop 1))

/-- The name ends like a client's; a line break may follow it. -/
def endsLikeClient (name : Text) : Bool :=
  let name := if name.getLast? == some '\n' then name.dropLast else name
  clientEndings.any fun ending =>
    ending.isSuffixOf name && isClientFront (name.take (name.length - ending.length))

/-- A name that only its ending tells to be a client. -/
def isClientLike (names : ClientNames) (object : Text) : Bool :=
  let name := withoutThis object
  endsLikeClient name && !names.aliases.contains name && !names.libraries.contains name

/-- Objects on which routes are declared. -/
def serverObjects : List Text := ["app", "router", "server", "fastify", "routes"]

/-- A name of which nothing else is told. -/
def isOther (names : ClientNames) (object : Text) : Bool :=
  let name := withoutThis object
  !names.libraries.contains name && !names.aliases.contains name && !endsLikeClient name
    && !serverObjects.contains name

end ClientNames

end MockApi
