import SentenceGraph.Decimal.Rounding

/-!
# Whole numbers as text

Decimal text of whole numbers, and the number that a run of ASCII digits stands for.
-/

namespace SentenceGraph.Decimal

def naturalText (number : Nat) : String :=
  String.ofList (Nat.toDigits 10 number)

/-- The decimal digits of an integer, after a minus sign if it is negative. -/
def integerChars (number : Int) : List Char :=
  if number < 0 then '-' :: Nat.toDigits 10 number.natAbs else Nat.toDigits 10 number.natAbs

def integerText (number : Int) : String :=
  String.ofList (integerChars number)

/-- The natural number that a run of ASCII digits stands for. -/
def ofDigits (digits : List Char) : Nat :=
  digits.foldl (fun number digit => 10 * number + (digit.toNat - '0'.toNat)) 0

end SentenceGraph.Decimal
