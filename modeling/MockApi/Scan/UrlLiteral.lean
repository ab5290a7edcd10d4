/-
URL literals as they stand in source text. What is filled in at run time
becomes the parameter `:id`, and the parameters of web frameworks become
parameters of route patterns: the braces of a template, of a format string
or of a route, and the angles of a route.

A literal whose braces cannot be told apart this way is no URL.
-/
import MockApi.Text.Blank
import MockApi.Text.Word
import MockApi.Url

namespace MockApi.UrlLiteral

-- ========================================================== replacing

/-- The text with everything that a reader recognizes replaced. The reader
gives the length of what stands in front, and what to put there instead; so
many characters are passed over first. -/
def replaceFrom (read? : Text → Option (Nat × Text)) : Nat → Text → Text
  | _, [] => []
  | passed + 1, _ :: rest => replaceFrom read? passed rest
  | 0, c :: rest =>
    match read? (c :: rest) with
    | some (length, new) => new ++ replaceFrom read? (length - 1) rest
    | none => c :: replaceFrom read? 0 rest

/-- The text with everything that a reader recognizes replaced. -/
def replaceAll (read? : Text → Option (Nat × Text)) (t : Text) : Text := replaceFrom read? 0 t

/-- The text without what a reader recognizes at its front, where a slash
follows. -/
def withoutBase (read? : Text → Option (Nat × Text)) (t : Text) : Text :=
  match read? t with
  | some (length, _) => if (t.drop length).head? = some '/' then t.drop length else t
  | none => t

-- ======================================================= what is read

/-- What may stand between braces. -/
def isPlain (c : CodePoint) : Bool := !(c == '{' || c == '}' || c == '\n')

/-- The most characters of an expression. -/
def expressionLimit : Nat := 256

/-- The most characters behind the colon of a parameter. -/
def constraintLimit : Nat := 128

/-- The most characters of a parameter's name. -/
def nameLimit : Nat := 64

/-- What stands for an expression. -/
def placeholder : Text := ":id"

/-- The length of the text up to a closing brace, with at most so many plain
characters before it. -/
def closed? (limit : Nat) (t : Text) : Option Nat :=
  let body := (t.takeWhile isPlain).length
  if body ≤ limit ∧ (t.drop body).head? = some '}' then some (body + 1) else none

/-- Reads an expression in braces. -/
def braced? : Text → Option (Nat × Text)
  | .char '{' :: rest => (closed? expressionLimit rest).map fun n => (n + 1, placeholder)
  | _ => none

/-- Reads an expression in braces behind a dollar sign. -/
def interpolation? : Text → Option (Nat × Text)
  | .char '$' :: rest => (braced? rest).map fun read => (read.1 + 1, placeholder)
  | _ => none

/-- Starts a name. -/
def startsName (c : CodePoint) : Bool := Text.isAsciiLetter c || c == '_'

/-- The name at the front of a text. -/
def name? (t : Text) : Option Text :=
  let name := t.takeWhile Text.isWord
  if name.head?.any startsName ∧ name.length ≤ nameLimit then some name else none

/-- Reads a parameter in braces, with or without a constraint. -/
def bracedName? : Text → Option (Nat × Text)
  | .char '{' :: rest => do
    let name ← name? rest
    match rest.drop name.length with
    | .char '}' :: _ => some (name.length + 2, ':' :: name)
    | .char ':' :: rest =>
      (closed? constraintLimit rest).map fun n => (name.length + 2 + n, ':' :: name)
    | _ => none
  | _ => none

/-- The length of what closes a parameter in angles, which may be two points
before the angle. -/
def angleEnd? : Text → Option Nat
  | .char '>' :: _ => some 1
  | .char '.' :: .char '.' :: .char '>' :: _ => some 3
  | _ => none

/-- Reads a parameter in angles, with or without a converter before it. -/
def angled? : Text → Option (Nat × Text)
  | .char '<' :: rest => do
    let first ← name? rest
    match rest.drop first.length with
    | .char ':' :: rest =>
      let name ← name? rest
      let n ← angleEnd? (rest.drop name.length)
      some (first.length + 2 + name.length + n, ':' :: name)
    | rest =>
      let n ← angleEnd? rest
      some (first.length + 1 + n, ':' :: first)
  | _ => none

-- =========================================================== literals

/-- The URL that a literal stands for, if its braces can all be told. In a
format string, braces hold expressions. -/
def normalize? (isFormat : Bool) (literal : Text) : Option Text :=
  let url := Text.trim literal
  let url := if isFormat then replaceAll braced? (withoutBase braced? url) else url
  let url := replaceAll interpolation? (withoutBase interpolation? url)
  if Text.hasPiece "$\x7b" url then none
  else
    let url := replaceAll braced? (replaceAll bracedName? (replaceAll angled? url))
    if url.isEmpty || url.contains '{' || url.contains '}' then none else some url

/-- The most characters of a scheme. -/
def schemeLimit : Nat := 32

/-- The literal starts with a slash, a scheme or an interpolation. -/
def looksLikeUrl (literal : Text) : Bool :=
  let url := Text.trim literal
  url.head? == some '/' || ("$\x7b" : Text).isPrefixOf url
    || (Url.scheme? url).any fun read => read.1.length ≤ schemeLimit

end MockApi.UrlLiteral
