/-
The display of a value in messages and header values: strings between
quotes of their own choosing, `None`, `True` and `False` for the constants,
and lists and objects on one line. A string on its own is displayed bare as
a header value and quoted in a message.

There are two styles for objects. Most are shown in braces; one that was read
from a bundle file, where the order of keys decides, is shown as the list of
its pairs.
-/
import MockApi.Json.Printer
import MockApi.Text.Quoted

namespace MockApi

/-- Floating point numbers in displays. -/
def displayFloat : FloatLayout := { jsonFloat with
  nan := "nan"
  infinity := "inf"
  negativeInfinity := "-inf" }

/-- How an object is displayed: what stands for an empty one, and for any other
what stands before, inside and behind its fields. -/
structure ObjectStyle where
  empty : Text
  opening : Text
  /-- Between a key and its value. -/
  colon : Text
  /-- Between two fields. -/
  comma : Text
  closing : Text
deriving DecidableEq, Repr

namespace ObjectStyle

/-- Keys and values between braces. -/
def braces : ObjectStyle :=
  { empty := "\x7b\x7d", opening := "\x7b", colon := ": ", comma := ", ", closing := "\x7d" }

/-- A list of pairs in order. -/
def pairs : ObjectStyle :=
  { empty := "OrderedDict()", opening := "OrderedDict([(", colon := ", ", comma := "), ("
    closing := ")])" }

end ObjectStyle

namespace Json

mutual

/-- A value as messages show it. -/
def shown (style : ObjectStyle) : Json → Text
  | .null => "None"
  | .bool true => "True"
  | .bool false => "False"
  | .int n => decimal n
  | .float x => displayFloat.text x
  | .str t => Text.quoted t
  | .arr [] => "[]"
  | .arr (item :: rest) => "[" ++ shown style item ++ shownItems style rest ++ "]"
  | .obj [] => style.empty
  | .obj ((key, value) :: rest) =>
    style.opening ++ Text.quoted key ++ style.colon ++ shown style value
      ++ shownFields style rest ++ style.closing

def shownItems (style : ObjectStyle) : List Json → Text
  | [] => []
  | item :: rest => ", " ++ shown style item ++ shownItems style rest

def shownFields (style : ObjectStyle) : List (Text × Json) → Text
  | [] => []
  | (key, value) :: rest =>
    style.comma ++ Text.quoted key ++ style.colon ++ shown style value ++ shownFields style rest

end

/-- A value as messages show it, if its integers can be written. -/
def display (style : ObjectStyle) (v : Json) : Except NumeralError Text :=
  if v.isWritable then .ok (v.shown style) else .error .tooLargeToWrite

/-- A value as plain text: a string is the text itself. -/
def plain (style : ObjectStyle) (v : Json) : Except NumeralError Text :=
  match v with
  | .str t => .ok t
  | _ => v.display style

end Json

end MockApi
