/-
Text as a list of code points, so that an offset, a length and a cut all
count code points and every function on text is a recursion on a list.
String literals coerce, which keeps keywords and messages readable.

The module holds what core's lists lack: cutting at a code point, looking
for a piece anywhere, and the test for membership in a table of ranges.
-/
import MockApi.Text.CodePoint

namespace MockApi

/-- Text is a list of code points. -/
abbrev Text := List CodePoint

namespace Text

/-- The text of a string. -/
def ofString (s : String) : Text := s.toList.map .char

instance : Coe String Text := ⟨ofString⟩

/-- The string of a text, a replacement character for every half of a
surrogate pair. -/
def toString (t : Text) : String := String.ofList (t.map fun c => c.char?.getD '\ufffd')

/-- A letter of the basic Latin alphabet. -/
def isAsciiLetter (c : CodePoint) : Bool := ('a' ≤ c && c ≤ 'z') || ('A' ≤ c && c ≤ 'Z')

/-- A decimal digit of ASCII. -/
def isAsciiDigit (c : CodePoint) : Bool := '0' ≤ c && c ≤ '9'

/-- Some range of the table, ends included, holds the code point. -/
def inRanges (table : List (Nat × Nat)) (c : CodePoint) : Bool :=
  table.any fun range => range.1 ≤ c.toNat && c.toNat ≤ range.2

/-- The pieces between the occurrences of a character. There is always one
more piece than occurrences, so text without the character is one piece. -/
def splitOn (sep : CodePoint) : Text → List Text
  | [] => [[]]
  | c :: rest =>
    if c = sep then [] :: splitOn sep rest
    else
      match splitOn sep rest with
      | [] => [[c]]
      | piece :: pieces => (c :: piece) :: pieces

/-- The text up to the first occurrence of a character, all of it if there is
none. -/
def before (sep : CodePoint) (t : Text) : Text := t.takeWhile (· != sep)

/-- The text after the first occurrence of a character, if there is one. -/
def after? (sep : CodePoint) : Text → Option Text
  | [] => none
  | c :: rest => if c = sep then some rest else after? sep rest

/-- The text behind the last occurrence of a character, all of it if there is
none. -/
def afterLast (sep : CodePoint) (t : Text) : Text := (t.reverse.takeWhile (· != sep)).reverse

/-- The pieces joined with a separator between neighbours. -/
def join (sep : Text) (pieces : List Text) : Text := sep.intercalate pieces

/-- The piece occurs somewhere in the text. -/
def hasPiece (piece : Text) : Text → Bool
  | [] => piece.isEmpty
  | c :: rest => piece.isPrefixOf (c :: rest) || hasPiece piece rest

/-- What follows the piece at the front of the text. -/
def afterPiece? (piece t : Text) : Option Text :=
  if piece.isPrefixOf t then some (t.drop piece.length) else none

/-- The digits of a number to a base. -/
def digits (base n : Nat) : Text := (Nat.toDigits base n).map .char

/-- So many copies of a code point. -/
def copies (count : Nat) (c : CodePoint) : Text := List.replicate count c

/-- The text behind so many copies of a code point as make it `width` long. -/
def padLeft (fill : CodePoint) (width : Nat) (t : Text) : Text :=
  copies (width - t.length) fill ++ t

/-- The text followed by so many blanks as make it `width` long. -/
def padRight (width : Nat) (t : Text) : Text :=
  t ++ copies (width - t.length) ' '

/-- Order by the code points of the first difference; a text comes before its
own extensions. -/
def precedes : Text → Text → Bool
  | _, [] => false
  | [], _ :: _ => true
  | a :: as, b :: bs => a < b || (a == b && precedes as bs)

/-- Texts in their order. -/
def sorted (texts : List Text) : List Text := texts.mergeSort fun a b => !precedes b a

end Text

end MockApi
