/-
Code points. Nearly all of them are characters. The others are the halves of
surrogate pairs: no character has their number and no encoded text may hold
one, but an escape inside a string can name one, and the value that is read
then holds it until it is written. So text is made of code points, and only
the step to bytes asks whether all of them are characters.
-/

namespace MockApi

/-- One half of a surrogate pair. -/
structure Surrogate where
  toNat : Nat
  isHalf : 0xd800 ≤ toNat ∧ toNat < 0xe000
deriving DecidableEq, Repr

/-- A character, or one half of a surrogate pair on its own. -/
inductive CodePoint where
  | char (c : Char)
  | surrogate (half : Surrogate)
deriving DecidableEq, Repr

namespace CodePoint

instance : Coe Char CodePoint := ⟨char⟩

instance : Inhabited CodePoint := ⟨'\x00'⟩

/-- The number of a code point. -/
def toNat : CodePoint → Nat
  | char c => c.toNat
  | surrogate half => half.toNat

/-- The code point of a number, zero for a number past the last one. -/
def ofNat (n : Nat) : CodePoint :=
  if h : 0xd800 ≤ n ∧ n < 0xe000 then surrogate ⟨n, h⟩ else char (Char.ofNat n)

/-- The character, if the code point is one. -/
def char? : CodePoint → Option Char
  | char c => some c
  | surrogate _ => none

/-- The image of a character; the half of a surrogate pair is left alone. -/
def mapChar (f : Char → Char) : CodePoint → CodePoint
  | char c => f c
  | surrogate half => surrogate half

instance : LT CodePoint := ⟨fun a b => a.toNat < b.toNat⟩

instance : LE CodePoint := ⟨fun a b => a.toNat ≤ b.toNat⟩

instance (a b : CodePoint) : Decidable (a < b) := inferInstanceAs (Decidable (a.toNat < b.toNat))

instance (a b : CodePoint) : Decidable (a ≤ b) := inferInstanceAs (Decidable (a.toNat ≤ b.toNat))

/-- A character has the number of no half, so the numbers tell all code points
apart. -/
theorem ofNat_toNat (c : CodePoint) : ofNat c.toNat = c := by
  cases c with
  | char c =>
    have valid : ¬(0xd800 ≤ c.toNat ∧ c.toNat < 0xe000) := by
      have h := c.valid
      simp only [UInt32.isValidChar, Nat.isValidChar] at h
      have : c.toNat = c.val.toNat := rfl
      omega
    simp [ofNat, toNat, valid]
  | surrogate half => simp [ofNat, toNat, half.isHalf]

end CodePoint

end MockApi
