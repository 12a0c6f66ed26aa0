import SentenceGraph.Json.Reader
import SentenceGraph.Text.Blank
import SentenceGraph.Text.DecimalDigit

/-!
# Numerals in settings

Numbers in settings may have blanks around them, digits of any script, and single underscores
between digits.
-/

namespace SentenceGraph.Decimal

/-- The ASCII form of a numeral: digits of all scripts become ASCII digits. -/
def plainNumeral (text : String) : List Char :=
  (Text.trimWhere Text.isNumeralBlank text.toList).map fun character =>
    match Text.digitValue? character with
    | some value => Char.ofNat ('0'.toNat + value)
    | none => character

/-- Takes out the underscores, each of which has to stand between two digits; `afterDigit` tells
whether a digit comes before. -/
def dropUnderscores (afterDigit : Bool) : List Char → Option (List Char)
  | [] => some []
  | '_' :: rest =>
      match rest with
      | next :: _ =>
          if afterDigit && next.isDigit then dropUnderscores false rest else none
      | [] => none
  | character :: rest => (dropUnderscores character.isDigit rest).map (character :: ·)

/-- Splits a sign off. -/
def splitSign : List Char → Bool × List Char
  | '-' :: rest => (true, rest)
  | '+' :: rest => (false, rest)
  | rest => (false, rest)

/-- The integer that a numeral stands for. -/
def readInteger? (text : String) : Option Int := do
  let (negative, digits) := splitSign (← dropUnderscores false (plainNumeral text))
  if digits.isEmpty || !digits.all Char.isDigit then none
  else
    let magnitude : Int := ofDigits digits
    return if negative then -magnitude else magnitude

variable {R : Type} [Quantity R]

/-- A magnitude with an optional point and an optional exponent; a digit must stand before or after
the point. -/
def readMagnitude? (negative : Bool) (characters : List Char) : Option R := do
  let (whole, rest) := Json.spanDigits characters
  let (fraction, rest) :=
    match rest with
    | '.' :: after => Json.spanDigits after
    | _ => ([], rest)
  if whole.isEmpty && fraction.isEmpty then none
  else
    let (exponent?, rest) := Json.readExponent rest
    if rest.isEmpty then
      return Quantity.ofDecimal negative (ofDigits (whole ++ fraction))
        (exponent?.getD 0 - fraction.length)
    else none

/-- The quantity that a numeral stands for; the words `inf`, `infinity` and `nan` are numerals too.
-/
def readQuantity? (text : String) : Option R := do
  let (negative, magnitude) := splitSign (← dropUnderscores false (plainNumeral text))
  let word := String.ofList (magnitude.map Char.toLower)
  if word == "inf" || word == "infinity" then return Quantity.ofNonFinite (.infinite negative)
  else if word == "nan" then return Quantity.ofNonFinite .notANumber
  else readMagnitude? negative magnitude

end SentenceGraph.Decimal
