/-
Rules that find HTTP calls in a file's text. A call rule has a pattern, a
test on the object of the call, and a way to tell the methods from a match.
A hook rule finds the wrappers that fetch data: the first argument of a
wrapper is a URL itself, or else calls a little further on count.

Hits come in the order in which a rule finds them.
-/
import MockApi.Scan.ClientName
import MockApi.Scan.UrlLiteral
import MockApi.Text.Case

namespace MockApi

/-- A call that a rule found. -/
structure Hit where
  offset : Nat
  method : Text
  url : Text
  /-- The text that was found. -/
  raw : Text
deriving DecidableEq, Repr

namespace Match

open Pattern Lexeme

/-- The verb of a match as its method. -/
def verbMethod (m : Match) : List Text := [Text.upper (m.get .verb)]

-- ============================================================ options

/-- How far behind a URL the options of a request are looked for. -/
def optionsWindow : Nat := 200

def quoteMark : Pattern := charIn "\x27\"\x60"

/-- A method among the options of a request. -/
def methodOption : Pattern :=
  "method" ++ blanks ++ ":" ++ blanks ++ quoteMark
    ++ part .verb (run Text.isAsciiLetter 3 (some 7)) ++ quoteMark

/-- The start of a request. -/
def fetchStart : Pattern := notAfter isNameChar ++ "fetch" ++ blanks ++ "("

/-- The method among the options of a request, looked for up to the next
request; without one the request reads. -/
def fetchMethods (m : Match) : List Text :=
  let window := m.stop.within optionsWindow
  let window :=
    match fetchStart.firstIn? window with
    | some next => window.within (next.start.offset - window.offset)
    | none => window
  match methodOption.firstIn? window with
  | some found => found.verbMethod
  | none => ["GET"]

-- ==================================================== lists of methods

/-- The spellings of a letter in either case. -/
def spellings (letter : CodePoint) : List CodePoint :=
  [letter, letter.mapChar Char.toLower]
    ++ (if letter = 'S' then "ſ" else if letter = 'I' then "ıİ" else "")

/-- A word in any case. -/
def anyCase (word : Text) : Pattern :=
  word.foldr (fun letter p => char (fun c => (spellings letter).contains c) ++ p) (.piece [])

/-- The methods that a list may name. -/
def knownMethods : List Text := ["GET", "POST", "PUT", "DELETE", "PATCH", "HEAD", "OPTIONS"]

/-- A quoted method in a list of methods. -/
def listedMethod : Pattern :=
  charIn "\x27\"" ++ part .verb (oneOf (knownMethods.map anyCase)) ++ charIn "\x27\""

/-- The methods listed among the arguments, each once; without a list of
methods the route is for reading. -/
def listedMethods (m : Match) : List Text :=
  let arguments := m.get .arguments
  if Text.hasPiece "methods" arguments then
    let found := (listedMethod.matchesIn (.ofText arguments)).flatMap verbMethod
    if found.isEmpty then ["GET"] else found.eraseDups
  else ["GET"]

end Match

-- ========================================================= call rules

/-- A rule for calls. -/
structure CallRule where
  pattern : Pattern
  methods : Match → List Text := Match.verbMethod
  accepts : ClientNames → Text → Bool := fun _ _ => true

/-- The literal of a match is a format string. -/
def Match.isFormat (m : Match) : Bool := (m.get .mark).any fun c => c == 'f' || c == 'F'

/-- What a match yields: a hit for each of its methods, if its URL can be
told. -/
def Match.hits (m : Match) (methods : List Text) : List Hit :=
  match UrlLiteral.normalize? m.isFormat (m.get .url) with
  | some url => methods.map fun method => ⟨m.start.offset, method, url, m.text⟩
  | none => []

/-- The hits of a call rule. -/
def CallRule.hits (r : CallRule) (names : ClientNames) (c : Cursor) : List Hit :=
  (r.pattern.matchesIn c).flatMap fun m =>
    if r.accepts names (m.get .object) then m.hits (r.methods m) else []

-- ========================================================= hook rules

/-- A rule for wrappers that fetch data. -/
structure HookRule where
  anchor : Pattern
  /-- A literal as first argument. -/
  key : Pattern
  /-- Wrappers whose first argument is a name and no URL. -/
  unkeyed : List Text
  inner : CallRule

namespace HookRule

/-- How far behind a wrapper a call counts. -/
def window : Nat := 400

/-- The URL literal that is the first argument of a wrapper. -/
def key? (r : HookRule) (anchor : Match) : Option Match :=
  if r.unkeyed.contains (anchor.get .hook) then none
  else (r.key.matchAt? anchor.stop).filter fun m => UrlLiteral.looksLikeUrl (m.get .url)

/-- A wrapper that changes data sends it. -/
def methodOf (hook : Text) : Text :=
  if Text.hasPiece "Mutation" hook then "POST" else "GET"

/-- The hit of a wrapper with its URL. -/
def keyHits (anchor key : Match) : List Hit :=
  match UrlLiteral.normalize? false (key.get .url) with
  | some url =>
    [⟨key.start.offset, methodOf (anchor.get .hook), url, anchor.text ++ key.text⟩]
  | none => []

/-- The calls on any URL a little behind a wrapper. -/
def windowHits (r : HookRule) (names : ClientNames) (anchor : Match) : List Hit :=
  (r.inner.pattern.matchesIn (anchor.stop.within window)).flatMap fun m =>
    if r.inner.accepts names (m.get .object) && UrlLiteral.looksLikeUrl (m.get .url) then
      m.hits (r.inner.methods m)
    else []

/-- The hits of a hook rule. -/
def hits (r : HookRule) (names : ClientNames) (c : Cursor) : List Hit :=
  (r.anchor.matchesIn c).flatMap fun anchor =>
    match r.key? anchor with
    | some key => keyHits anchor key
    | none => r.windowHits names anchor

end HookRule

-- ============================================================== rules

/-- A rule. -/
inductive Rule where
  | call (r : CallRule)
  | hook (r : HookRule)

/-- The hits of a rule in a text. -/
def Rule.hits (rule : Rule) (names : ClientNames) (text : Text) : List Hit :=
  match rule with
  | .call r => r.hits names (.ofText text)
  | .hook r => r.hits names (.ofText text)

end MockApi
