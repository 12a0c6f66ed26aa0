import SentenceGraph.Decimal.Layout

/-!
# Quantities

Confidences, percentages and durations are quantities. The library is written for any type of
quantities with the operations below. It runs on binary64 numbers, the instance of this file; laws
that hold only without rounding are stated for exact instances.
-/

namespace SentenceGraph

/-- Quantities that are no number, or beyond every number. -/
inductive NonFinite where
  | notANumber
  | infinite (negative : Bool)
deriving DecidableEq, Repr

/-- A type of quantities: arithmetic, order, rounding, and decimal text in both directions. -/
class Quantity (R : Type) extends Add R, Sub R, Mul R, Div R, LT R, LE R, OfScientific R where
  /-- The order can be decided. -/
  decidableLT : DecidableLT R
  /-- The order can be decided. -/
  decidableLE : DecidableLE R
  /-- The quantity equal or nearest to a whole number, unless the number is out of range. -/
  ofInt? : Int → Option R
  /-- The quantity equal or nearest to `±digits · 10 ^ exponent`. -/
  ofDecimal : (negative : Bool) → (digits : Nat) → (exponent : Int) → R
  /-- The quantities that are no number. -/
  ofNonFinite : NonFinite → R
  /-- Tells the quantities that are no number. -/
  nonFinite? : R → Option NonFinite
  /-- Whether the quantity is zero, of either sign. -/
  isZero : R → Bool
  /-- The whole part, for a number. -/
  wholePart? : R → Option Int
  /-- The quantity nearest to the one given that has at most this many decimal places. -/
  roundTo : (places : Nat) → R → R
  /-- The text with a fixed number of decimal places. -/
  fixedText : (places : Nat) → R → String
  /-- The text with the fewest digits. -/
  text : R → String

namespace Quantity

instance {R : Type} [quantity : Quantity R] (left right : R) : Decidable (left < right) :=
  quantity.decidableLT left right

instance {R : Type} [quantity : Quantity R] (left right : R) : Decidable (left ≤ right) :=
  quantity.decidableLE left right

/-- The quantity of a count. Counts beyond the range become zero; no count of this library is. -/
def ofCount {R : Type} [Quantity R] (count : Nat) : R :=
  (ofInt? (count : Int)).getD (0.0 : R)

/-- The quotient of two counts. It is taken in lowest terms, so that only the quotient has to be
within the range, and not the counts: the quotient of equal counts is one. -/
def ratio {R : Type} [Quantity R] (part whole : Nat) : R :=
  let common := part.gcd whole
  ofCount (part / common) / ofCount (whole / common)

end Quantity

namespace Decimal

/-- The binary number nearest to `±digits · 10 ^ exponent`. Magnitudes far outside the range are
decided by their number of digits alone. -/
def floatOfDecimal (negative : Bool) (digits : Nat) (exponent : Int) : Float :=
  let leading : Int := digitCount digits + exponent
  let magnitude : Float :=
    if digits == 0 || leading < -400 then 0.0
    else if 400 < leading then 1.0 / 0.0
    else Float.ofScientific digits (exponent < 0) exponent.natAbs
  if negative then -magnitude else magnitude

/-- The binary number nearest to a whole number, unless that is beyond the range. -/
def floatOfInt? (number : Int) : Option Float :=
  let nearest := floatOfDecimal (number < 0) number.natAbs 0
  match Binary.ofFloat nearest with
  | .finite .. => some nearest
  | _ => none

/-- Infinities and the value that is no number. -/
def floatOfNonFinite : NonFinite → Float
  | .notANumber => 0.0 / 0.0
  | .infinite negative => if negative then -1.0 / 0.0 else 1.0 / 0.0

/-- The nearest binary number to the given one that has at most this many decimal places. -/
def Binary.roundTo (places : Nat) (value : Float) : Float :=
  match Binary.ofFloat value with
  | .finite negative mantissa exponent =>
      floatOfDecimal negative (roundedUnits places mantissa exponent) (-(places : Int))
  | _ => value

/-- The whole part of a finite binary number: the magnitude is cut, the sign kept. -/
def Binary.wholePart? : Binary → Option Int
  | .finite negative mantissa exponent =>
      let (numerator, denominator) := quotientOf mantissa exponent
      let magnitude : Int := (numerator / denominator : Nat)
      some (if negative then -magnitude else magnitude)
  | _ => none

/-- The non-finite case of a binary number. -/
def Binary.nonFinite? : Binary → Option NonFinite
  | .notANumber => some .notANumber
  | .infinite negative => some (.infinite negative)
  | .finite .. => none

end Decimal

open Decimal in
/-- Binary64 numbers, on which the program computes. -/
instance : Quantity Float where
  decidableLT := inferInstance
  decidableLE := inferInstance
  ofInt? := floatOfInt?
  ofDecimal := floatOfDecimal
  ofNonFinite := floatOfNonFinite
  nonFinite? value := (Binary.ofFloat value).nonFinite?
  isZero value := value == 0.0
  wholePart? value := (Binary.ofFloat value).wholePart?
  roundTo := Binary.roundTo
  fixedText places value := (Binary.ofFloat value).fixedText places
  text value := (Binary.ofFloat value).text

end SentenceGraph
