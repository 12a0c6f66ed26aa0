import SentenceGraph.Value.Number

/-!
# Order of values

Numbers of all kinds are ordered among each other, and texts by their code points. Other values
cannot be compared.
-/

namespace SentenceGraph

namespace Number

variable {R : Type} [Quantity R]

/-- Whether a quantity lies below an integer: an integer beyond the range decides by its sign, and
one with several quantities near it by the whole part. -/
def realBelowInt (quantity : R) (number : Int) : Bool :=
  match Quantity.nonFinite? quantity with
  | some .notANumber => false
  | some (.infinite negative) => negative
  | none =>
      match Quantity.wholePart? quantity with
      | none => false
      | some whole =>
          whole < number || (whole == number && (Quantity.ofInt? number).any (quantity < ·))

/-- Whether an integer lies below a quantity. -/
def intBelowReal (number : Int) (quantity : R) : Bool :=
  match Quantity.nonFinite? quantity with
  | some .notANumber => false
  | some (.infinite negative) => !negative
  | none =>
      match Quantity.wholePart? quantity with
      | none => false
      | some whole =>
          number < whole || (whole == number && (Quantity.ofInt? number).any (· < quantity))

/-- Whether a number lies below another one. -/
def below : Number R → Number R → Bool
  | int first, int second => first < second
  | int first, real second => intBelowReal first second
  | real first, int second => realBelowInt first second
  | real first, real second => first < second

end Number

namespace Value

variable {R : Type} [Quantity R]

/-- Whether a value lies below another one, if the two can be compared. Only numbers and texts are
taken to be comparable. An order of lists by their items is left out: what is compared here are
confidences, and those are numbers. -/
def below? (left right : Value R) : Option Bool :=
  match Number.ofValue? left, Number.ofValue? right with
  | some first, some second => some (first.below second)
  | _, _ =>
      match left, right with
      | .text first, .text second => some (decide (first < second))
      | _, _ => none

end Value

end SentenceGraph
