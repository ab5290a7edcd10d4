/-
The pieces that call patterns are made of: names, HTTP verbs, and string
literals that may hold a URL.
-/
import MockApi.Pattern
import MockApi.Url

namespace MockApi.Lexeme

open Pattern

/-- A character of a script name behind its first. -/
def isNameChar (c : CodePoint) : Bool := Text.isWord c || c == '$'

/-- The first character of a script name. -/
def startsScriptName (c : CodePoint) : Bool := Text.isAsciiLetter c || c == '_' || c == '$'

/-- The first character of a plain name. -/
def startsPlainName (c : CodePoint) : Bool := Text.isAsciiLetter c || c == '_'

/-- A name of at most so many characters behind the first. -/
def nameOf (starts continues : CodePoint → Bool) (most : Nat) : Pattern :=
  char starts ++ run continues 0 (some most)

/-- A name that may hold dollar signs. -/
def scriptName : Pattern := nameOf startsScriptName isNameChar 127

/-- A name of word characters. -/
def plainName : Pattern := nameOf startsPlainName Text.isWord 127

/-- One of some words as the verb of a match. -/
def verbOf (words : List Text) : Pattern :=
  part .verb (oneOf (words.map .piece))

/-- An HTTP verb in lower case. -/
def verb : Pattern := verbOf ["get", "post", "put", "delete", "patch", "head", "options"]

/-- May stand in a URL literal. -/
def isUrlChar (c : CodePoint) : Bool :=
  !(c == '\x27' || c == '"' || c == '\x60' || c == '\\' || c == '\n')

/-- The most characters of a URL literal. -/
def urlLimit : Nat := 2048

/-- A string literal in one of the given quotes. -/
def literalIn (quotes : String) : Pattern :=
  part .quote (charIn quotes) ++ part .url (run isUrlChar 1 (some urlLimit)) ++ again .quote

/-- A literal in any quotes, among them those of templates. -/
def scriptLiteral : Pattern := literalIn "\x27\"\x60"

/-- A literal in double quotes. -/
def doubleQuoted : Pattern := literalIn "\""

/-- A literal in double quotes or raw ones. -/
def rawLiteral : Pattern := literalIn "\"\x60"

/-- A literal with the letters that may stand in front of it. -/
def markedLiteral : Pattern :=
  maybe (part .mark (run (fun c => ("rRuUfFbB" : Text).contains c) 1 (some 2)))
    ++ literalIn "\x27\""

/-- What opens the argument list of a call. -/
def opening : Pattern := blanks ++ "(" ++ blanks

end MockApi.Lexeme
