/-
Paths and route patterns. A path is read as its non-empty segments; a
pattern is a path in which a segment behind a colon is a parameter and fits
any segment. `canonical` is the one spelling of a path: a slash before every
segment, a single slash for none, no query and no fragment.
-/
import MockApi.Text.Digit
import MockApi.Url

namespace MockApi.Path

/-- The non-empty segments between slashes. -/
def segments (path : Text) : List Text := (Text.splitOn '/' path).filter (!·.isEmpty)

/-- The path with the given segments. -/
def ofSegments (segments : List Text) : Text := '/' :: Text.join "/" segments

/-- The path without query, fragment and needless slashes. -/
def canonical (path : Text) : Text :=
  ofSegments (segments (Text.before '#' (Text.before '?' path)))

/-- A pattern's segment that fits any segment. -/
def isParameter (segment : Text) : Bool := segment.head? == some ':'

/-- Digits of any script and nothing else; a line break may follow them. -/
def isNumeric (segment : Text) : Bool :=
  let digits := segment.takeWhile Text.isDigit
  let rest := segment.dropWhile Text.isDigit
  !digits.isEmpty && (rest.isEmpty || rest == "\n")

/-- A segment that stands for a thing's identity. -/
def isIdentity (segment : Text) : Bool := isNumeric segment || isParameter segment

/-- Segment by segment, a parameter or the same text. -/
def segmentsFit : List Text → List Text → Bool
  | [], [] => true
  | p :: pattern, s :: path => (isParameter p || p == s) && segmentsFit pattern path
  | _, _ => false

/-- The pattern fits the path. -/
def fits (pattern path : Text) : Bool := segmentsFit (segments pattern) (segments path)

/-- The route pattern of a URL: its canonical path, after a base URL in front
of it and the host of an absolute URL are removed. -/
def routePattern (url : Text) (base : Text) : Except UrlError Text := do
  let url := if base.isEmpty then url else (Text.afterPiece? base url).getD url
  let path ← if Url.isAbsolute url then Url.path url else pure url
  return canonical path

/-- The segments of a URL's route pattern. -/
def routeSegments (url : Text) : Except UrlError (List Text) :=
  (routePattern url []).map segments

end MockApi.Path
