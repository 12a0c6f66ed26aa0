import SentenceGraph.Decimal.Power

/-!
# Binary floating-point numbers taken apart

A finite binary64 number is `±mantissa · 2 ^ exponent` with natural mantissa and integer exponent.
The other modules of this folder work on these parts in exact arithmetic.
-/

namespace SentenceGraph.Decimal

/-- A binary floating-point number as its sign and magnitude. -/
inductive Binary where
  | notANumber
  | infinite (negative : Bool)
  | finite (negative : Bool) (mantissa : Nat) (exponent : Int)
deriving DecidableEq, Repr

/-- The exponent of the numbers below the smallest normal one. -/
def smallestExponent : Int := -1074

/-- The parts of a binary64 number: its sign bit, eleven exponent bits and 52 mantissa bits. -/
def Binary.ofFloat (value : Float) : Binary :=
  let bits := value.toBits.toNat
  let negative := bits / twoTo 63 == 1
  let biased := bits / twoTo 52 % twoTo 11
  let fraction := bits % twoTo 52
  if biased == 2047 then
    if fraction == 0 then .infinite negative else .notANumber
  else if biased == 0 then .finite negative fraction smallestExponent
  else .finite negative (fraction + twoTo 52) (smallestExponent + (biased - 1 : Nat))

/-- A power of two times a natural number, as an exact quotient. -/
def quotientOf (mantissa : Nat) (exponent : Int) : Nat × Nat :=
  if 0 ≤ exponent then (mantissa * twoTo exponent.toNat, 1)
  else (mantissa, twoTo (-exponent).toNat)

end SentenceGraph.Decimal
