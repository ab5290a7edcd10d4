/-
Lines of a text. A line break is a line feed, a carriage return, or a
carriage return with the line feed behind it, which are one break. The line
of an offset is one more than the number of breaks that start before it; the
breaks are in ascending order, so their number is found by halving.
-/
import MockApi.Text.Basic

namespace MockApi.Line

/-- The offsets at which line breaks start, from an offset on. -/
def breaksFrom (offset : Nat) : Text → List Nat
  | [] => []
  | .char '\r' :: .char '\n' :: rest => offset :: breaksFrom (offset + 2) rest
  | c :: rest =>
    if c = '\r' ∨ c = '\n' then offset :: breaksFrom (offset + 1) rest
    else breaksFrom (offset + 1) rest

/-- The offsets at which line breaks start. -/
def breaks (t : Text) : List Nat := breaksFrom 0 t

/-- Where an offset would be put in front of the first break that is not before
it. From `low` to `high` the middle break tells in which half that is. -/
def placeAmong (breaks : Array Nat) (offset low high : Nat) (inside : high ≤ breaks.size) : Nat :=
  if _ : low < high then
    let middle := (low + high) / 2
    if breaks[middle] < offset then placeAmong breaks offset (middle + 1) high inside
    else placeAmong breaks offset low middle (by omega)
  else low
termination_by high - low

/-- The line of an offset, from the breaks of the text. -/
def ofBreaks (breaks : List Nat) (offset : Nat) : Nat :=
  placeAmong breaks.toArray offset 0 breaks.length (by simp) + 1

/-- The line of an offset, from the text before it alone. -/
def ofOffset (t : Text) (offset : Nat) : Nat := ofBreaks (breaks (t.take offset)) offset

end MockApi.Line
