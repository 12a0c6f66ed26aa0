/-!
# Sets of code points

Character classes of the text layer are unions of ranges of code points. A class is looked up by
testing the ranges one after the other; the ASCII part of each class is decided without a table,
in the module of that class.
-/

namespace SentenceGraph

/-- A set of code points: the union of ranges that include both ends. -/
abbrev CodeRanges := Array (Nat × Nat)

/-- Whether a character lies in one of the ranges. -/
def CodeRanges.holds (ranges : CodeRanges) (character : Char) : Bool :=
  ranges.any fun range => range.1 ≤ character.toNat && character.toNat ≤ range.2

end SentenceGraph
