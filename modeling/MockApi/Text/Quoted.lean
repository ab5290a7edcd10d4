/-
Quoted text, as messages show it: between single quotes, or between double
quotes when the text holds a single quote and no double one. The quote in
use and the backslash are escaped, and a character that is not printable is
written as a numeric escape of the least width that holds it.
-/
import MockApi.Text.Printable

namespace MockApi.Text

/-- Lower-case hexadecimal digits, padded with zeros to a width. -/
def hex (width n : Nat) : Text := padLeft '0' width (digits 16 n)

/-- One character between quotes. -/
def quotedChar (quote c : CodePoint) : Text :=
  if c = quote || c = '\\' then ['\\', c]
  else if c = '\t' then "\\t"
  else if c = '\n' then "\\n"
  else if c = '\r' then "\\r"
  else if isPrintable c then [c]
  else if c.toNat < 0x100 then "\\x" ++ hex 2 c.toNat
  else if c.toNat < 0x10000 then "\\u" ++ hex 4 c.toNat
  else "\\U" ++ hex 8 c.toNat

/-- The quote that needs the fewer escapes; single unless only single quotes
occur. -/
def quoteFor (t : Text) : CodePoint :=
  if t.contains '\'' && !t.contains '"' then '"' else '\''

/-- The text between quotes. -/
def quoted (t : Text) : Text :=
  let quote := quoteFor t
  quote :: t.flatMap (quotedChar quote) ++ [quote]

end MockApi.Text
