/-!
# Rounding a quotient

Every place where this library cuts a number to fewer digits rounds the exact quotient of two
natural numbers to the nearest whole number, a half to the even neighbour.
-/

namespace SentenceGraph.Decimal

/-- The whole number nearest to `numerator / denominator`; a half goes to the even neighbour. -/
def roundHalfEven (numerator denominator : Nat) : Nat :=
  let quotient := numerator / denominator
  let remainder := numerator % denominator
  if 2 * remainder < denominator then quotient
  else if denominator < 2 * remainder then quotient + 1
  else quotient + quotient % 2

/-- The number of decimal digits of a natural number, one for zero. -/
def digitCount (number : Nat) : Nat :=
  (Nat.toDigits 10 number).length

/-- The decimal digits of a natural number, with zeros in front up to the given width. -/
def paddedDigits (width number : Nat) : List Char :=
  let digits := Nat.toDigits 10 number
  List.replicate (width - digits.length) '0' ++ digits

end SentenceGraph.Decimal
