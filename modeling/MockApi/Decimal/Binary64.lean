/-
Binary floating point numbers of 64 bits, kept as their bits. A finite
number is a sign and a magnitude m · 2^q in exact integers, so reading,
writing, dividing and rounding are integer arithmetic; `nearest` is the one
place that rounds, to the nearest number, a tie to the even mantissa.
-/
import MockApi.Decimal.Integer

namespace MockApi

/-- A binary64 number. -/
structure Binary64 where
  bits : UInt64
deriving DecidableEq, Repr

namespace Binary64

/-- The bits below the sign. -/
def magnitudeBits (x : Binary64) : Nat := x.bits.toNat % 2 ^ 63

/-- The sign bit is set. -/
def negative (x : Binary64) : Bool := 2 ^ 63 ≤ x.bits.toNat

/-- The bits of positive infinity; greater magnitudes are no numbers. -/
def infinityBits : Nat := 0x7ff0000000000000

def isInfinite (x : Binary64) : Bool := x.magnitudeBits == infinityBits

def isNaN (x : Binary64) : Bool := infinityBits < x.magnitudeBits

def isFinite (x : Binary64) : Bool := x.magnitudeBits < infinityBits

def isZero (x : Binary64) : Bool := x.magnitudeBits == 0

/-- The number with the given sign and bits below it. -/
def ofParts (negative : Bool) (magnitude : Nat) : Binary64 :=
  ⟨UInt64.ofNat (magnitude + if negative then 2 ^ 63 else 0)⟩

def infinity (negative : Bool) : Binary64 := ofParts negative infinityBits

def nan : Binary64 := ofParts false 0x7ff8000000000000

/-- The number of fraction bits. -/
def fractionBits : Nat := 52

/-- The power of two that scales the least subnormal is 2^-1074. -/
def leastExponent : Nat := 1074

/-- The mantissa m and the exponent q of a finite magnitude m · 2^q, the
exponent raised by `leastExponent` so that it is a natural number. -/
def scaled (x : Binary64) : Nat × Nat :=
  let fraction := x.magnitudeBits % 2 ^ fractionBits
  let exponent := x.magnitudeBits / 2 ^ fractionBits
  if exponent = 0 then (fraction, 0) else (fraction + 2 ^ fractionBits, exponent - 1)

/-- m · 2^(q - 1074) as a fraction. -/
def fractionOf (m q : Nat) : Nat × Nat :=
  (m * 2 ^ (q - leastExponent), 2 ^ (leastExponent - q))

/-- The magnitude of a finite number as numerator and denominator. -/
def ratio (x : Binary64) : Nat × Nat := fractionOf x.scaled.1 x.scaled.2

end Binary64

/-- The quotient rounded to the nearest integer, a tie to the even one. -/
def roundHalfEven (num den : Nat) : Nat :=
  let q := num / den
  let twice := 2 * (num % den)
  if twice < den then q
  else if den < twice then q + 1
  else if q % 2 = 0 then q else q + 1

namespace Binary64

/-- The raised exponent at which the quotient of two positive integers has a
mantissa of 53 bits, or the least exponent if it is too small for that. -/
def exponentFor (num den : Nat) : Nat :=
  let up := num.log2 + leastExponent
  let guess := up - den.log2
  let fits := if num.log2 < den.log2
    then den ≤ num * 2 ^ (den.log2 - num.log2)
    else den * 2 ^ (num.log2 - den.log2) ≤ num
  if up < den.log2 then 0 else guess - (if fits then 52 else 53)

/-- The bits of the number nearest to a quotient; those of infinity when the
quotient rounds beyond the largest finite number. The mantissa carries into
the exponent field when rounding fills it. -/
def nearestBits (num den : Nat) : Nat :=
  if num = 0 then 0
  else
    let q := exponentFor num den
    let m := roundHalfEven (num * 2 ^ (leastExponent - q)) (den * 2 ^ (q - leastExponent))
    min (q * 2 ^ fractionBits + m) infinityBits

/-- The number nearest to a signed quotient. -/
def nearest (negative : Bool) (num den : Nat) : Binary64 :=
  ofParts negative (nearestBits num den)

/-- The count of the decimal digits of a natural number. -/
def digitCount (n : Nat) : Nat := (Nat.toDigits 10 n).length

/-- The number nearest to d · 10^e. Magnitudes far outside the range of the
finite numbers are decided by the place of their first digit. -/
def nearestDecimal (negative : Bool) (d : Nat) (e : Int) : Binary64 :=
  let place := (digitCount d : Int) + e
  if d = 0 || place < -400 then ofParts negative 0
  else if 400 < place then infinity negative
  else nearest negative (d * 10 ^ e.toNat) (10 ^ (-e).toNat)

/-- The integer part of a finite number. -/
def truncate (x : Binary64) : Int :=
  let (num, den) := x.ratio
  if x.negative then -(num / den : Nat) else (num / den : Nat)

/-- The product with a natural number, rounded; infinities and zeros keep
their sign. -/
def scale (x : Binary64) (factor : Nat) : Binary64 :=
  if x.isFinite then
    let (num, den) := x.ratio
    nearest x.negative (num * factor) den
  else x

/-- The number rounded to so many decimal places: the nearest decimal, a tie
to the even last digit, read back. -/
def roundPlaces (places : Nat) (x : Binary64) : Binary64 :=
  if x.isFinite then
    let (num, den) := x.ratio
    nearest x.negative (roundHalfEven (num * 10 ^ places) den) (10 ^ places)
  else x

end Binary64

end MockApi
