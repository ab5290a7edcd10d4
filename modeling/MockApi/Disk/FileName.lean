/-
Names of files. A disk knows a name by its bytes, and a program by its text.
The bytes are UTF-8; one that is not part of any character is shown as the
half of a surrogate pair whose number ends in it, so that every name has a
text and the text leads back to the name. No other half can be named.
-/
import MockApi.Text.Utf8

namespace MockApi.FileName

/-- The first of the halves that stand for bytes. -/
def escapeBase : Nat := 0xdc00

/-- The byte that a half stands for, if it stands for one. -/
def escapedByte? (half : Surrogate) : Option UInt8 :=
  if escapeBase + 0x80 ≤ half.toNat ∧ half.toNat ≤ escapeBase + 0xff then
    some (UInt8.ofNat (half.toNat - escapeBase))
  else none

/-- The bytes of a text in a name. -/
def bytes? : Text → Option Bytes
  | [] => some []
  | .char c :: rest => (bytes? rest).map (String.utf8EncodeChar c ++ ·)
  | .surrogate half :: rest => do
    let b ← escapedByte? half
    let behind ← bytes? rest
    return b :: behind

/-- The text of at most so many bytes of a name. -/
def ofBytesFrom (fuel : Nat) (bytes : Bytes) : Text :=
  match fuel, bytes with
  | 0, _ => []
  | _, [] => []
  | fuel + 1, b :: rest =>
    match Utf8.character b rest with
    | .error _ => CodePoint.ofNat (escapeBase + b.toNat) :: ofBytesFrom fuel rest
    | .ok c => CodePoint.ofNat c.value :: ofBytesFrom fuel c.rest

/-- The text of the bytes of a name. -/
def ofBytes (bytes : Bytes) : Text := ofBytesFrom bytes.length bytes

/-- The text by which a disk gives a name back. Halves in a row may make up the
bytes of a character. -/
def canonical (name : Text) : Text := ((bytes? name).map ofBytes).getD name

/-- The number of bytes of a text in a name. -/
def size (t : Text) : Nat := ((bytes? t).getD []).length

end MockApi.FileName
