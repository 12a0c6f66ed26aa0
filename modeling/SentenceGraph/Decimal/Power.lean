/-!
# Powers

The powers of the two bases that exact decimal arithmetic with binary numbers needs.
-/

namespace SentenceGraph.Decimal

/-- The power of ten with this exponent. -/
def tenTo (exponent : Nat) : Nat :=
  Nat.pow 10 exponent

/-- The power of two with this exponent. -/
def twoTo (exponent : Nat) : Nat :=
  Nat.pow 2 exponent

end SentenceGraph.Decimal
