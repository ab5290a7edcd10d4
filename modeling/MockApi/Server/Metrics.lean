/-
What a server counts: requests, how many of them a route answered, and how
many bodies were recorded. The match rate is a percentage of two places,
computed in floating point the way it is reported: quotient, times one
hundred, rounded.
-/
import MockApi.Decimal.Binary64

namespace MockApi

/-- Counts of requests. -/
structure Metrics where
  total : Int := 0
  matched : Int := 0
  unmatched : Int := 0
  writes : Int := 0
deriving DecidableEq, Repr

/-- The share of matched requests. -/
inductive MatchRate where
  /-- There was no request. -/
  | idle
  | percent (x : Binary64)
  /-- The quotient is too large for a number. -/
  | tooLarge
deriving DecidableEq, Repr

/-- The share of matched requests. -/
def Metrics.matchRate (m : Metrics) : MatchRate :=
  if m.total ≤ 0 then .idle
  else
    let quotient := Binary64.nearest (m.matched < 0) m.matched.natAbs m.total.natAbs
    let product := quotient.scale 100
    let rounded := product.roundPlaces 2
    if quotient.isInfinite || (product.isFinite && rounded.isInfinite) then .tooLarge
    else .percent rounded

end MockApi
