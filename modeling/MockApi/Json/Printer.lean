/-
The text of a JSON value, in the layouts that the program writes: on one
line with wide separators and only ASCII characters (response bodies), on
one line with tight separators (answers of the server itself), and indented
(files). A `JsonLayout` says which.

`Json.text` is total; `Json.write` is what programs call, and refuses a
value that holds an integer too large for text.
-/
import MockApi.Json.Basic
import MockApi.Decimal.Shortest

namespace MockApi

/-- Floating point numbers in JSON: positional from 0.0001 to below 10^16. -/
def jsonFloat : FloatLayout where
  positionalFrom := -4
  positionalBelow := 16
  pointBeforeExponent := false
  exponentWidth := 2
  nan := "NaN"
  infinity := "Infinity"
  negativeInfinity := "-Infinity"

/-- A layout of JSON text. -/
structure JsonLayout where
  /-- What stands between items on one line. -/
  itemSeparator : Text
  /-- What stands between a key and its value. -/
  keySeparator : Text
  /-- Characters beyond ASCII are written as escapes. -/
  asciiOnly : Bool
  /-- The indentation of a level; without it everything is on one line. -/
  indent : Option Nat
deriving DecidableEq, Repr

namespace JsonLayout

/-- Response bodies and rendered placeholders. -/
def body : JsonLayout := ⟨", ", ": ", true, none⟩

/-- Answers that the server makes up itself. -/
def tight : JsonLayout := ⟨",", ":", false, none⟩

/-- Files. -/
def file : JsonLayout := ⟨",", ": ", false, some 2⟩

/-- What stands between the brackets and items at a depth: a line break with
its indentation, or nothing. -/
def lineBreak (layout : JsonLayout) (depth : Nat) : Text :=
  match layout.indent with
  | none => []
  | some width => "\n" ++ Text.copies (width * depth) ' '

end JsonLayout

namespace Json

/-- A code unit as an escape. -/
def unitEscape (n : Nat) : Text := "\\u" ++ Text.hex 4 n

/-- A character as one escape, or as two when it lies beyond the first plane. -/
def numericEscape (c : CodePoint) : Text :=
  if c.toNat < 0x10000 then unitEscape c.toNat
  else
    let n := c.toNat - 0x10000
    unitEscape (0xd800 + n / 0x400) ++ unitEscape (0xdc00 + n % 0x400)

/-- A character inside a string. -/
def escapeChar (asciiOnly : Bool) (c : CodePoint) : Text :=
  if c = '"' then "\\\""
  else if c = '\\' then "\\\\"
  else if c = '\n' then "\\n"
  else if c = '\r' then "\\r"
  else if c = '\t' then "\\t"
  else if c = '\x0c' then "\\f"
  else if c = '\x08' then "\\b"
  else if c < ' ' then numericEscape c
  else if asciiOnly && '~' < c then numericEscape c
  else [c]

/-- A string with its quotes. -/
def stringText (asciiOnly : Bool) (t : Text) : Text :=
  "\"" ++ t.flatMap (escapeChar asciiOnly) ++ "\""

mutual

/-- The text of a value that stands at a depth. -/
def textAt (layout : JsonLayout) (depth : Nat) : Json → Text
  | .null => "null"
  | .bool true => "true"
  | .bool false => "false"
  | .int n => decimal n
  | .float x => jsonFloat.text x
  | .str t => stringText layout.asciiOnly t
  | .arr [] => "[]"
  | .arr (item :: rest) =>
    "[" ++ layout.lineBreak (depth + 1) ++ textAt layout (depth + 1) item
      ++ itemsText layout (depth + 1) rest ++ layout.lineBreak depth ++ "]"
  | .obj [] => "\x7b\x7d"
  | .obj ((key, value) :: rest) =>
    "\x7b" ++ layout.lineBreak (depth + 1) ++ stringText layout.asciiOnly key ++ layout.keySeparator
      ++ textAt layout (depth + 1) value ++ fieldsText layout (depth + 1) rest
      ++ layout.lineBreak depth ++ "\x7d"

/-- The items after the first one, each behind a separator. -/
def itemsText (layout : JsonLayout) (depth : Nat) : List Json → Text
  | [] => []
  | item :: rest =>
    layout.itemSeparator ++ layout.lineBreak depth ++ textAt layout depth item
      ++ itemsText layout depth rest

/-- The fields after the first one, each behind a separator. -/
def fieldsText (layout : JsonLayout) (depth : Nat) : List (Text × Json) → Text
  | [] => []
  | (key, value) :: rest =>
    layout.itemSeparator ++ layout.lineBreak depth ++ stringText layout.asciiOnly key
      ++ layout.keySeparator ++ textAt layout depth value ++ fieldsText layout depth rest

end

/-- The text of a value. -/
def text (layout : JsonLayout) (v : Json) : Text := textAt layout 0 v

/-- Every integer in the value can be written. -/
def isWritable (v : Json) : Bool := v.allIntegers fitsInText

/-- The text of a value whose integers can all be written. -/
def write (layout : JsonLayout) (v : Json) : Except NumeralError Text :=
  if v.isWritable then .ok (v.text layout) else .error .tooLargeToWrite

end Json

end MockApi
