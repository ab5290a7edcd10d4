/-
Blank characters: white space of every script together with the separator
controls of ASCII. Trimming removes them from both ends of a text.
-/
import MockApi.Text.Basic

namespace MockApi.Text

/-- The ranges of the blank characters. -/
def blankRanges : List (Nat × Nat) :=
  [(0x9, 0xd), (0x1c, 0x20), (0x85, 0x85), (0xa0, 0xa0), (0x1680, 0x1680), (0x2000, 0x200a),
   (0x2028, 0x2029), (0x202f, 0x202f), (0x205f, 0x205f), (0x3000, 0x3000)]

/-- White space of any script, or a separator control. -/
def isBlank (c : CodePoint) : Bool := inRanges blankRanges c

/-- The text without the blanks at its end. -/
def trimEnd (t : Text) : Text := (t.reverse.dropWhile isBlank).reverse

/-- The text without the blanks at either end. -/
def trim (t : Text) : Text := trimEnd (t.dropWhile isBlank)

end MockApi.Text
