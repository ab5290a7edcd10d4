/-
The path of a URL. An absolute URL has a scheme or starts with two slashes;
its path is what stands behind the host, without query, fragment and the
parameters of the last segment. Line breaks and tabs inside it do not count.
-/
import MockApi.Text.Case
import MockApi.Url.Host

namespace MockApi.Url

/-- A character of a scheme behind its first letter. -/
def isSchemeChar (c : CodePoint) : Bool :=
  Text.isAsciiLetter c || Text.isAsciiDigit c || c == '+' || c == '.' || c == '-'

/-- The scheme of a URL that has a host, with what follows its colon. -/
def scheme? (url : Text) : Option (Text × Text) :=
  let scheme := url.takeWhile isSchemeChar
  if (scheme.head?.any Text.isAsciiLetter) then
    (Text.afterPiece? "://" (url.drop scheme.length)).map fun _ =>
      (scheme, url.drop (scheme.length + 1))
  else none

/-- The URL names a host. -/
def isAbsolute (url : Text) : Bool := (scheme? url).isSome || ("//" : Text).isPrefixOf url

/-- Schemes whose last path segment may carry parameters behind a semicolon;
a URL without a scheme is among them. Releases of the URL reader differ in `rtsps`:
the one that is followed here reads `rtsps://h/a;b` with the path `/a;b`. -/
def schemesWithParameters : List Text :=
  ["", "ftp", "hdl", "prospero", "http", "imap", "https", "shttp", "rtsp", "rtspu", "sip",
   "sips", "mms", "sftp", "tel"]

/-- A path without the parameters of its last segment. -/
def withoutParameters (path : Text) : Text :=
  let last := Text.afterLast '/' path
  path.take (path.length - last.length) ++ Text.before ';' last

/-- Ends the host part. -/
def endsHost (c : CodePoint) : Bool := c == '/' || c == '?' || c == '#'

/-- Does not count inside a URL. -/
def isIgnored (c : CodePoint) : Bool := c == '\t' || c == '\r' || c == '\n'

/-- The path of an absolute URL. -/
def path (url : Text) : Except UrlError Text := do
  let url := url.filter (!isIgnored ·)
  let (scheme, rest) := (scheme? url).getD ([], url)
  let rest := rest.drop 2
  Host.check (rest.takeWhile (!endsHost ·))
  let path := Text.before '?' (Text.before '#' (rest.dropWhile (!endsHost ·)))
  return if schemesWithParameters.contains (Text.lower scheme) then withoutParameters path
    else path

end MockApi.Url
