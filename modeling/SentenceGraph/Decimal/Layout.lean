import SentenceGraph.Decimal.Shortest

/-!
# Layout of decimal numbers

Two layouts of a number: the general one, with the fewest digits and an exponent only for very large
and very small magnitudes, and the fixed one with a given number of places.
-/

namespace SentenceGraph.Decimal

/-- Magnitudes from `10 ^ lowestPositional` on are written without an exponent … -/
def lowestPositional : Int := -4

/-- … up to, and not including, this power of ten. -/
def lowestScientific : Int := 16

/-- Sign and at least two digits of an exponent. -/
def exponentText (exponent : Int) : List Char :=
  (if exponent < 0 then '-' else '+') :: paddedDigits 2 exponent.natAbs

/-- The general layout of `digits · 10 ^ place`: the point always has a digit on both sides. -/
def generalText (digits : Nat) (place : Int) : List Char :=
  let shown := Nat.toDigits 10 digits
  let leading := place + shown.length - 1
  if leading < lowestPositional || lowestScientific ≤ leading then
    let mantissa :=
      match shown with
      | first :: second :: rest => first :: '.' :: second :: rest
      | single => single
    mantissa ++ 'e' :: exponentText leading
  else if 0 ≤ place then shown ++ List.replicate place.toNat '0' ++ ['.', '0']
  else if 0 ≤ leading then
    shown.take (leading.toNat + 1) ++ '.' :: shown.drop (leading.toNat + 1)
  else '0' :: '.' :: (List.replicate (-leading - 1).toNat '0' ++ shown)

/-- A sign in front of the text of a magnitude. -/
def withSign (negative : Bool) (magnitude : List Char) : String :=
  String.ofList (if negative then '-' :: magnitude else magnitude)

/-- The general text of a binary number. -/
def Binary.text : Binary → String
  | .notANumber => "nan"
  | .infinite negative => withSign negative "inf".toList
  | .finite negative mantissa exponent =>
      if mantissa == 0 then withSign negative "0.0".toList
      else
        let (digits, place) := shortestDigits mantissa exponent
        withSign negative (generalText digits place)

/-- The digits of a whole number of units of `10 ^ -places`, with the point put in. -/
def placedText (places units : Nat) : List Char :=
  let shown := paddedDigits (places + 1) units
  let whole := shown.take (shown.length - places)
  if places == 0 then whole else whole ++ '.' :: shown.drop (shown.length - places)

/-- The exact value, in units of `10 ^ -places`, rounded to a whole number of units. -/
def roundedUnits (places mantissa : Nat) (exponent : Int) : Nat :=
  let (numerator, denominator) := quotientOf mantissa exponent
  roundHalfEven (numerator * tenTo places) denominator

/-- The text of a binary number with a fixed number of places; the sign of a zero is kept. -/
def Binary.fixedText (places : Nat) : Binary → String
  | .notANumber => "nan"
  | .infinite negative => withSign negative "inf".toList
  | .finite negative mantissa exponent =>
      withSign negative (placedText places (roundedUnits places mantissa exponent))

end SentenceGraph.Decimal
