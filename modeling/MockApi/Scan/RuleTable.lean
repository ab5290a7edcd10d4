/-
The rules of each dialect, in the order in which they are tried: calls that
a client makes come before routes that a server declares. Each finds calls
in the file as a whole; a call that two rules find counts for the first.
-/
import MockApi.Scan.Rule

namespace MockApi

open Pattern Lexeme

namespace Rule

/-- A verb called on what stands before, with a URL as first argument. -/
def verbCall (literal : Pattern) : Pattern := "." ++ verb ++ opening ++ literal

-- ============================================================= scripts

/-- A request of the browser. -/
def fetch : CallRule where
  pattern := notAfter isNameChar ++ "fetch" ++ opening ++ scriptLiteral
  methods := Match.fetchMethods

/-- A request of the client library itself. -/
def libraryCall : CallRule where
  pattern := notAfter (fun c => isNameChar c || c == '.') ++ "axios" ++ verbCall scriptLiteral

/-- A verb called on an object, which may belong to its own class. -/
def objectCall : Pattern :=
  notAfter isNameChar ++ part .object (maybe "this." ++ scriptName) ++ verbCall scriptLiteral

/-- A request of a named client. -/
def aliasCall : CallRule where
  pattern := objectCall
  accepts := ClientNames.isAlias

/-- A request of an object that is called like a client. -/
def clientCall : CallRule where
  pattern := objectCall
  accepts := ClientNames.isClientLike

/-- The wrappers that fetch data. -/
def hooks : List Text :=
  ["useQuery", "useSuspenseQuery", "useInfiniteQuery", "useMutation", "useSWR", "useSWRMutation",
   "useSWRInfinite", "useFetch", "useLazyFetch", "createAsyncThunk"]

/-- Types behind the name of a wrapper. -/
def typeArguments : Pattern :=
  "<" ++ run (fun c => !(c == '<' || c == '>' || c == '(' || c == ')' || c == '\n')) 0 (some 256)
    ++ ">" ++ blanks

/-- A wrapper and what is fetched inside it. -/
def dataHook : HookRule where
  anchor := notAfter isNameChar ++ part .hook (oneOf (hooks.map .piece)) ++ blanks
    ++ maybe typeArguments ++ "("
  key := blanks ++ scriptLiteral ++ blanks ++ charIn ",)"
  unkeyed := ["createAsyncThunk"]
  inner := { pattern := objectCall, accepts := ClientNames.isOther }

/-- A route of a server object. -/
def serverRoute : CallRule where
  pattern := notAfter (fun c => isNameChar c || c == '.' || c == '@')
    ++ part .object (oneOf ["app", "router", "server", "fastify", "routes"])
    ++ verbCall scriptLiteral

/-- A route of a decorated method. -/
def decoratedMethod : CallRule where
  pattern := "@" ++ verbOf ["Get", "Post", "Put", "Delete", "Patch", "Head", "Options"] ++ opening
    ++ scriptLiteral

-- ============================================== requests and decorators

def notInPath : Pattern := notAfter fun c => Text.isWord c || c == '.'

/-- A request of a client library itself. -/
def moduleCall : CallRule where
  pattern := notInPath ++ oneOf ["requests", "httpx"] ++ verbCall markedLiteral

/-- A request of a named session. -/
def sessionCall : CallRule where
  pattern := notInPath ++ part .object plainName ++ verbCall markedLiteral
  accepts := ClientNames.isAlias

/-- A route of a decorated function, its verb in the decorator. -/
def decoratedVerb : CallRule where
  pattern := "@" ++ part .object plainName ++ verbCall markedLiteral

/-- A route of a decorated function, its methods in a list. -/
def decoratedRoute : CallRule where
  pattern := "@" ++ part .object plainName ++ ".route" ++ opening ++ markedLiteral
    ++ part .arguments (run (fun c => !(c == ')' || c == '\n')) 0 (some 256))
  methods := Match.listedMethods

-- ========================================================= annotations

/-- A route of an annotated method. -/
def annotatedMethod : CallRule where
  pattern := "@" ++ verbOf ["Get", "Post", "Put", "Delete", "Patch"] ++ "Mapping" ++ opening
    ++ maybe (oneOf ["value", "path"] ++ blanks ++ "=" ++ blanks) ++ maybe (char (· == '{'))
    ++ blanks ++ doubleQuoted

-- ====================================================== route builders

/-- A resource of a web application, for reading. -/
def resource : CallRule where
  pattern := "web::resource" ++ opening ++ doubleQuoted ++ blanks ++ ")"
  methods := fun _ => ["GET"]

/-- What separates the path of a route from its handler. -/
def comma : Pattern := blanks ++ "," ++ blanks

/-- A route with a verb of the web module. -/
def webRoute : CallRule where
  pattern := ".route" ++ opening ++ doubleQuoted ++ comma ++ "web::" ++ verb ++ blanks ++ "("

/-- A route in an attribute. -/
def attributeRoute : CallRule where
  pattern := "#[" ++ verb ++ opening ++ doubleQuoted

/-- A route with a bare verb. -/
def verbRoute : CallRule where
  pattern := wordEdge ++ "route" ++ opening ++ doubleQuoted ++ comma ++ verb ++ blanks ++ "("

-- ============================================================ handlers

/-- A handler function, for reading. -/
def handler : CallRule where
  pattern := wordEdge ++ oneOf ["http", "mux"] ++ ".HandleFunc" ++ opening ++ rawLiteral
  methods := fun _ => ["GET"]

/-- A route of a router, its verb in upper case. -/
def routerCall : CallRule where
  pattern := wordEdge ++ part .object (nameOf startsPlainName Text.isWord 63) ++ "."
    ++ verbOf ["GET", "POST", "PUT", "DELETE", "PATCH"] ++ opening ++ rawLiteral

end Rule

/-- The rules of a dialect in order. -/
def Dialect.rules : Dialect → List Rule
  | javascript =>
    [.call Rule.fetch, .call Rule.libraryCall, .call Rule.aliasCall, .hook Rule.dataHook,
     .call Rule.clientCall, .call Rule.serverRoute, .call Rule.decoratedMethod]
  | python =>
    [.call Rule.moduleCall, .call Rule.sessionCall, .call Rule.decoratedVerb,
     .call Rule.decoratedRoute]
  | rust =>
    [.call Rule.resource, .call Rule.webRoute, .call Rule.attributeRoute, .call Rule.verbRoute]
  | java => [.call Rule.annotatedMethod]
  | go => [.call Rule.handler, .call Rule.routerCall]

end MockApi
