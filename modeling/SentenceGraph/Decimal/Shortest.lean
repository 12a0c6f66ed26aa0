import SentenceGraph.Decimal.Binary64
import SentenceGraph.Decimal.Rounding

/-!
# Fewest digits that read back

The text of a binary64 number shows the fewest significant digits from which rounding to nearest
gives the number back, and of those with that many digits the nearest one. The search goes through
the decimal grids from coarse to fine; on each grid only the two neighbours of the number can lie in
the interval of reals that round to it, and seventeen digits always suffice.
-/

namespace SentenceGraph.Decimal

/-- The exponent of the leading decimal digit of a positive quotient. -/
def leadingExponent (numerator denominator : Nat) : Int :=
  if denominator ≤ numerator then (digitCount (numerator / denominator) : Int) - 1
  else
    let places := digitCount (denominator / numerator)
    if denominator ≤ numerator * tenTo (places - 1) then -((places : Int) - 1) else -(places : Int)

/-- The interval of reals that round to `mantissa · 2 ^ exponent`, scaled by four and by
`denominator`: its lower end, its upper end, and whether the ends belong to it. -/
def roundingInterval (mantissa : Nat) (exponent : Int) : Nat × Nat × Bool :=
  let below := if mantissa == twoTo 52 && smallestExponent < exponent then 1 else 2
  (4 * mantissa - below, 4 * mantissa + 2, mantissa % 2 == 0)

/-- Whether `digits · 10 ^ place` rounds to `mantissa · 2 ^ exponent`. -/
def readsBack (mantissa : Nat) (exponent : Int) (digits : Nat) (place : Int) : Bool :=
  let (lower, upper, closed) := roundingInterval mantissa exponent
  let scale := tenTo (-place).toNat * twoTo exponent.toNat
  let candidate := 4 * digits * tenTo place.toNat * twoTo (-exponent).toNat
  let low := lower * scale
  let high := upper * scale
  if closed then low ≤ candidate && candidate ≤ high else low < candidate && candidate < high

/-- The number's neighbours on the grid of multiples of `10 ^ place`, the nearer one first; of two
equally near the even one is first. -/
def gridNeighbours (mantissa : Nat) (exponent : Int) (place : Int) : List Nat :=
  let (numerator, denominator) := quotientOf mantissa exponent
  let above := numerator * tenTo (-place).toNat
  let under := denominator * tenTo place.toNat
  let nearest := roundHalfEven above under
  let floor := above / under
  if nearest == floor then [floor, floor + 1] else [floor + 1, floor]

/-- Searches the grids that show `shown` digits and more, at most `remaining` further grids. -/
def searchGrids (mantissa : Nat) (exponent leading : Int) (shown : Nat) : Nat → Nat × Int
  | 0 => (mantissa, 0)
  | remaining + 1 =>
      let place := leading - shown + 1
      match (gridNeighbours mantissa exponent place).find? (readsBack mantissa exponent · place) with
      | some digits => (digits, place)
      | none => searchGrids mantissa exponent leading (shown + 1) remaining

/-- Moves trailing zeros of the digits into the power of ten. -/
def dropTrailingZeros (digits : Nat) (place : Int) : Nat × Int :=
  let zeros := ((Nat.toDigits 10 digits).reverse.takeWhile (· == '0')).length
  (digits / tenTo zeros, place + zeros)

/-- The shortest digits and their power of ten for a positive number `mantissa · 2 ^ exponent`. -/
def shortestDigits (mantissa : Nat) (exponent : Int) : Nat × Int :=
  let (numerator, denominator) := quotientOf mantissa exponent
  let (digits, place) :=
    searchGrids mantissa exponent (leadingExponent numerator denominator) 1 17
  dropTrailingZeros digits place

end SentenceGraph.Decimal
