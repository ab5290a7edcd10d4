/-
The shortest decimal text of a binary64 number: the fewest digits that read
back as the same number, and of those the nearest to it.

A number m · 2^q owns the reals that round to it, an interval whose ends
lie half way to its neighbours and belong to it when m is even. Going from
coarse to fine decimal grids, the first grid with a point in the interval
gives the digits; if the interval holds a point of a grid, it holds one of
the two grid points next to the number.

Where the point stands, and what the exponent looks like, is a `FloatLayout`.
-/
import MockApi.Decimal.Integer
import MockApi.Decimal.Binary64

namespace MockApi

-- =============================================== digits and exponent

/-- The digits d and the exponent e of a decimal d · 10^e. -/
structure DecimalForm where
  digits : Nat
  exponent : Int
deriving DecidableEq, Repr

/-- An interval of fractions over one denominator, around a value in it. -/
structure RoundingInterval where
  low : Nat
  value : Nat
  high : Nat
  den : Nat
  closed : Bool

namespace RoundingInterval

/-- The reals that round to the finite magnitude. Below a power of two the
neighbour is half as far away as above it. -/
def of (x : Binary64) : RoundingInterval :=
  let (m, q) := x.scaled
  let below := if m = 2 ^ Binary64.fractionBits ∧ 0 < q then 1 else 2
  let (unit, den) := Binary64.fractionOf 1 q
  { low := (4 * m - below) * unit, value := 4 * m * unit, high := (4 * m + 2) * unit,
    den := 4 * den, closed := m % 2 = 0 }

/-- The grid point d · 10^e lies in the interval. -/
def holds (i : RoundingInterval) (d : Nat) (e : Int) : Bool :=
  let point := d * 10 ^ e.toNat * i.den
  let scale := 10 ^ (-e).toNat
  if i.closed then i.low * scale ≤ point && point ≤ i.high * scale
  else i.low * scale < point && point < i.high * scale

/-- The grid point of exponent e at or below the value. -/
def gridFloor (i : RoundingInterval) (e : Int) : Nat :=
  (i.value * 10 ^ (-e).toNat) / (i.den * 10 ^ e.toNat)

/-- The value is nearer to the grid point d than to d + 1, or half way between
them with d even. -/
def nearerBelow (i : RoundingInterval) (d : Nat) (e : Int) : Bool :=
  let value := 2 * i.value * 10 ^ (-e).toNat
  let middle := (2 * d + 1) * (i.den * 10 ^ e.toNat)
  value < middle || (value == middle && d % 2 == 0)

/-- The grid point of exponent e in the interval that is nearest to the value. -/
def onGrid? (i : RoundingInterval) (e : Int) : Option Nat :=
  let d := i.gridFloor e
  match i.holds d e, i.holds (d + 1) e with
  | true, true => some (if i.nearerBelow d e then d else d + 1)
  | true, false => some d
  | false, true => some (d + 1)
  | false, false => none

/-- The power of ten of the value's first digit. -/
def leadingExponent (i : RoundingInterval) : Int :=
  if i.den ≤ i.value then ((Nat.toDigits 10 (i.value / i.den)).length : Int) - 1
  else
    match (List.range 330).find? fun j => i.den ≤ i.value * 10 ^ (j + 1) with
    | some j => -((j : Int) + 1)
    | none => -330

end RoundingInterval

/-- The number of digits that always suffices. -/
def sufficientDigits : Nat := 17

/-- Trailing zeros moved into the exponent. -/
def DecimalForm.reduce (fuel : Nat) (f : DecimalForm) : DecimalForm :=
  match fuel with
  | 0 => f
  | fuel + 1 =>
    if f.digits ≠ 0 ∧ f.digits % 10 = 0 then reduce fuel ⟨f.digits / 10, f.exponent + 1⟩ else f

/-- The shortest decimal of a finite magnitude. -/
def shortestDecimal (x : Binary64) : DecimalForm :=
  if x.isZero then ⟨0, 0⟩
  else
    let i := RoundingInterval.of x
    let top := i.leadingExponent
    let found := (List.range (sufficientDigits + 1)).findSome? fun (j : Nat) =>
      (i.onGrid? (top - j)).map fun d => (⟨d, top - j⟩ : DecimalForm)
    (found.getD ⟨0, 0⟩).reduce sufficientDigits

-- ===================================================== laying it out

/-- How the digits of a number are laid out. -/
structure FloatLayout where
  /-- The least exponent of the first digit that is written positionally. -/
  positionalFrom : Int
  /-- The first exponent of the first digit that no longer is. -/
  positionalBelow : Int
  /-- A lone first digit before an exponent is followed by a point and a zero. -/
  pointBeforeExponent : Bool
  /-- The least number of digits of the exponent. -/
  exponentWidth : Nat
  nan : Text
  infinity : Text
  negativeInfinity : Text

namespace FloatLayout

/-- Digits with the exponent of the first one, without a point. -/
def positional (digits : Text) (e : Int) : Text :=
  if e < 0 then "0." ++ Text.copies ((-e).toNat - 1) '0' ++ digits
  else
    let whole := e.toNat + 1
    if digits.length ≤ whole then digits ++ Text.copies (whole - digits.length) '0' ++ ".0"
    else digits.take whole ++ "." ++ digits.drop whole

/-- One digit before the point, and an exponent with its sign. -/
def scientific (layout : FloatLayout) (digits : Text) (e : Int) : Text :=
  let fraction :=
    match digits.drop 1 with
    | [] => if layout.pointBeforeExponent then ".0" else []
    | rest => '.' :: rest
  digits.take 1 ++ fraction ++ (if e < 0 then "e-" else "e+")
    ++ Text.padLeft '0' layout.exponentWidth (decimalOfNat e.natAbs)

/-- The text of a number. -/
def text (layout : FloatLayout) (x : Binary64) : Text :=
  if x.isNaN then layout.nan
  else if x.isInfinite then if x.negative then layout.negativeInfinity else layout.infinity
  else
    let form := shortestDecimal x
    let digits := decimalOfNat form.digits
    let e := form.exponent + digits.length - 1
    let body :=
      if layout.positionalFrom ≤ e ∧ e < layout.positionalBelow then positional digits e
      else layout.scientific digits e
    if x.negative then '-' :: body else body

end FloatLayout

end MockApi
