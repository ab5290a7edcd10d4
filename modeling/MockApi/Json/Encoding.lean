/-
JSON text as bytes whose encoding is not told. A byte order mark names the
encoding; without one the zero bytes among the first four do, since a JSON
text starts with two ASCII characters. The half of a surrogate pair may be
encoded on its own and stands for itself.
-/
import MockApi.Json.Parser
import MockApi.Text.Utf8

namespace MockApi

/-- The encodings of JSON text. -/
inductive TextEncoding where
  | utf8
  | utf16 (bigEndian : Bool)
  | utf32 (bigEndian : Bool)
deriving DecidableEq, Repr

namespace TextEncoding

/-- The marks, each with the encoding it names; a longer mark stands before a
mark that it starts with. -/
def marks : List (Bytes × TextEncoding) :=
  [([0, 0, 0xfe, 0xff], .utf32 true), ([0xff, 0xfe, 0, 0], .utf32 false),
   ([0xfe, 0xff], .utf16 true), ([0xff, 0xfe], .utf16 false), (Utf8.mark, .utf8)]

/-- The encoding of bytes without a mark. -/
def ofZeros (bytes : Bytes) : TextEncoding :=
  match bytes with
  | a :: b :: c :: d :: _ =>
    if a = 0 then if b = 0 then .utf32 true else .utf16 true
    else if b = 0 then if c = 0 && d = 0 then .utf32 false else .utf16 false
    else .utf8
  | [a, b] => if a = 0 then .utf16 true else if b = 0 then .utf16 false else .utf8
  | _ => .utf8

/-- The encoding of bytes, and the bytes behind a mark. -/
def detect (bytes : Bytes) : TextEncoding × Bytes :=
  match marks.find? fun entry => entry.1.isPrefixOf bytes with
  | some (mark, encoding) => (encoding, bytes.drop mark.length)
  | none => (ofZeros bytes, bytes)

/-- Sixteen-bit units, if the number of bytes is even. -/
def units16? (bigEndian : Bool) : Bytes → Option (List Nat)
  | [] => some []
  | [_] => none
  | a :: b :: rest =>
    (units16? bigEndian rest).map
      ((if bigEndian then a.toNat * 0x100 + b.toNat else b.toNat * 0x100 + a.toNat) :: ·)

/-- The characters of sixteen-bit units. -/
def textOfUnits : List Nat → Text
  | [] => []
  | [n] => [CodePoint.ofNat n]
  | high :: low :: rest =>
    if Json.Parser.isHighSurrogate high && Json.Parser.isLowSurrogate low then
      Json.Parser.charOfPair high low :: textOfUnits rest
    else CodePoint.ofNat high :: textOfUnits (low :: rest)

/-- The characters of thirty-two-bit units, none past the last plane. -/
def text32? (bigEndian : Bool) : Bytes → Option Text
  | [] => some []
  | a :: b :: c :: d :: rest =>
    let n := if bigEndian
      then ((a.toNat * 0x100 + b.toNat) * 0x100 + c.toNat) * 0x100 + d.toNat
      else ((d.toNat * 0x100 + c.toNat) * 0x100 + b.toNat) * 0x100 + a.toNat
    if 0x110000 ≤ n then none
    else (text32? bigEndian rest).map (CodePoint.ofNat n :: ·)
  | _ => none

/-- UTF-8 in which surrogates may be encoded too. -/
def text8? (fuel : Nat) (bytes : Bytes) : Option Text :=
  match fuel, bytes with
  | _, [] => some []
  | 0, _ => none
  | fuel + 1, b :: rest =>
    let read :=
      if b = 0xed then Utf8.following 2 0x80 0xbf 0xd 1 rest else Utf8.character b rest
    match read with
    | .error _ => none
    | .ok c => (text8? fuel c.rest).map (CodePoint.ofNat c.value :: ·)

/-- The text of bytes in an encoding. -/
def decode? (encoding : TextEncoding) (bytes : Bytes) : Option Text :=
  match encoding with
  | .utf8 => text8? bytes.length bytes
  | .utf16 bigEndian => (units16? bigEndian bytes).map textOfUnits
  | .utf32 bigEndian => text32? bigEndian bytes

end TextEncoding

/-- Reads a JSON text from bytes, with a default for anything that is not
JSON. Nesting beyond the limit is not excused by the default. -/
def Json.ofBytes [JsonReader] (bytes : Bytes) (default : Json) : Except JsonError Json :=
  if bytes.isEmpty then .ok default
  else
    let (encoding, body) := TextEncoding.detect bytes
    match encoding.decode? body with
    | none => .ok default
    | some t =>
      match Json.parse t with
      | .error .tooDeep => .error .tooDeep
      | .error _ => .ok default
      | .ok v => .ok v

/-- Reads a JSON text, with a default for anything that is not JSON. -/
def Json.ofText [JsonReader] (t : Text) (default : Json) : Except JsonError Json :=
  if t.isEmpty then .ok default
  else
    match Json.parseText t with
    | .error .tooDeep => .error .tooDeep
    | .error _ => .ok default
    | .ok v => .ok v

end MockApi
