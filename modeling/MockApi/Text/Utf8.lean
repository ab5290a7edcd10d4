/-
UTF-8 text as bytes. The first byte of a character says how many follow and
bounds the second one, so that overlong forms, surrogates and code points
past the last plane are refused at the first byte that rules them out.

A refusal names the flaw and the stretch of bytes it spoils: the first byte
and those after it that still fitted.
-/
import MockApi.Decimal.Integer

namespace MockApi

abbrev Bytes := List UInt8

namespace Utf8

/-- What is wrong with a stretch of bytes. -/
inductive Flaw where
  | invalidStart
  | invalidContinuation
  | unexpectedEnd
deriving DecidableEq, Repr

def Flaw.message : Flaw → Text
  | invalidStart => "invalid start byte"
  | invalidContinuation => "invalid continuation byte"
  | unexpectedEnd => "unexpected end of data"

/-- What a first byte says: how many bytes follow, its own part of the code
point, and the bounds of the second byte. -/
structure Lead where
  count : Nat
  value : Nat
  least : Nat := 0x80
  greatest : Nat := 0xbf

/-- The meaning of a first byte. -/
def lead? (b : Nat) : Option Lead :=
  if b < 0x80 then some { count := 0, value := b }
  else if b < 0xc2 then none
  else if b < 0xe0 then some { count := 1, value := b - 0xc0 }
  else if b = 0xe0 then some { count := 2, value := 0, least := 0xa0 }
  else if b = 0xed then some { count := 2, value := 0xd, greatest := 0x9f }
  else if b < 0xf0 then some { count := 2, value := b - 0xe0 }
  else if b = 0xf0 then some { count := 3, value := 0, least := 0x90 }
  else if b < 0xf4 then some { count := 3, value := b - 0xf0 }
  else if b = 0xf4 then some { count := 3, value := 4, greatest := 0x8f }
  else none

/-- A character that was read: its number, that of its bytes, and the bytes
behind it. -/
structure Read where
  value : Nat
  count : Nat
  rest : Bytes

/-- Reads so many further bytes of a character of which `taken` bytes are
read, or finds a flaw and the number of bytes that it spoils. -/
def following (count least greatest value taken : Nat) (bytes : Bytes) :
    Except (Flaw × Nat) Read :=
  match count, bytes with
  | 0, _ => .ok ⟨value, taken, bytes⟩
  | _ + 1, [] => .error (.unexpectedEnd, taken)
  | count + 1, b :: rest =>
    if least ≤ b.toNat ∧ b.toNat ≤ greatest then
      following count 0x80 0xbf (value * 0x40 + (b.toNat - 0x80)) (taken + 1) rest
    else .error (.invalidContinuation, taken)

/-- Reads the character that starts with the byte `b`. -/
def character (b : UInt8) (rest : Bytes) : Except (Flaw × Nat) Read :=
  match lead? b.toNat with
  | none => .error (.invalidStart, 1)
  | some lead => following lead.count lead.least lead.greatest lead.value 1 rest

/-- A stretch of bytes that is no UTF-8, by the positions of its first and
last byte. -/
structure DecodeError where
  flaw : Flaw
  first : Nat
  last : Nat
  byte : UInt8
deriving DecidableEq, Repr

/-- A stretch of one byte is shown with that byte. -/
def DecodeError.message (e : DecodeError) : Text :=
  (if e.first = e.last then
    "'utf-8' codec can't decode byte 0x" ++ Text.hex 2 e.byte.toNat
      ++ " in position " ++ decimalOfNat e.first
  else
    "'utf-8' codec can't decode bytes in position " ++ decimalOfNat e.first
      ++ "-" ++ decimalOfNat e.last)
  ++ ": " ++ e.flaw.message

/-- Decodes bytes of which the first stands at a position. -/
def decodeFrom (fuel position : Nat) (bytes : Bytes) : Except DecodeError Text :=
  match fuel, bytes with
  | _, [] => .ok []
  | 0, _ :: _ => .ok []
  | fuel + 1, b :: rest =>
    match character b rest with
    | .error (flaw, spoilt) => .error ⟨flaw, position, position + spoilt - 1, b⟩
    | .ok c => (decodeFrom fuel (position + c.count) c.rest).map (CodePoint.ofNat c.value :: ·)

/-- The text of UTF-8 bytes. -/
def decode (bytes : Bytes) : Except DecodeError Text := decodeFrom bytes.length 0 bytes

/-- The bytes with which UTF-8 text may be marked. -/
def mark : Bytes := [0xef, 0xbb, 0xbf]

/-- The bytes without a mark in front. -/
def withoutMark (bytes : Bytes) : Bytes :=
  if mark.isPrefixOf bytes then bytes.drop mark.length else bytes

/-- Decodes bytes, each spoilt stretch as one replacement character. -/
def decodeLossyFrom (fuel : Nat) (bytes : Bytes) : Text :=
  match fuel, bytes with
  | 0, _ => []
  | _, [] => []
  | fuel + 1, b :: rest =>
    match character b rest with
    | .error (_, spoilt) => '\ufffd' :: decodeLossyFrom fuel (rest.drop (spoilt - 1))
    | .ok c => CodePoint.ofNat c.value :: decodeLossyFrom fuel c.rest

/-- The text of bytes that may not be UTF-8 throughout. -/
def decodeLossy (bytes : Bytes) : Text := decodeLossyFrom bytes.length bytes

/-- The UTF-8 bytes of a text of characters. The half of a surrogate pair has
no bytes. -/
def encode? (t : Text) : Option Bytes :=
  (t.mapM CodePoint.char?).map (·.flatMap String.utf8EncodeChar)

/-- The number of bytes of a text of characters. -/
def size (t : Text) : Nat := ((encode? t).getD []).length

end Utf8

namespace Text

/-- Every line break as a line feed: a carriage return with its line feed, or
one on its own. -/
def withLineFeeds : Text → Text
  | [] => []
  | .char '\r' :: .char '\n' :: rest => '\n' :: withLineFeeds rest
  | c :: rest => (if c = '\r' then '\n' else c) :: withLineFeeds rest

end Text

end MockApi
