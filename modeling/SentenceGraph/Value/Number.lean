import SentenceGraph.Value

/-!
# Numbers among values

A stored number is an integer or a quantity; a truth value counts as one or zero. Integers stay
exact until they meet a quantity.
-/

namespace SentenceGraph

/-- A number of either kind. -/
inductive Number (R : Type) where
  | int (number : Int)
  | real (quantity : R)
deriving Repr

namespace Number

variable {R : Type} [Quantity R]

/-- The number that a value is. -/
def ofValue? : Value R → Option (Number R)
  | .int number => some (int number)
  | .bool truth => some (int (if truth then 1 else 0))
  | .real quantity => some (real quantity)
  | _ => none

omit [Quantity R] in
def toValue : Number R → Value R
  | int number => .int number
  | real quantity => .real quantity

def quantity : Number R → Except Fault R
  | int number =>
      match Quantity.ofInt? number with
      | some quantity => .ok quantity
      | none => .error .integerTooLarge
  | real quantity => .ok quantity

/-- The product of two numbers. -/
def times (left right : Number R) : Except Fault (Number R) :=
  match left, right with
  | int first, int second => .ok (int (first * second))
  | _, _ => do return real ((← left.quantity) * (← right.quantity))

def next : Number R → Number R
  | int number => int (number + 1)
  | real quantity => real (quantity + 1.0)

def isZero : Number R → Bool
  | int number => number == 0
  | real quantity => Quantity.isZero quantity

/-- A quantity divided by a number. -/
def divide (quantity : R) (divisor : Number R) : Except Fault R :=
  if divisor.isZero then .error .divisionByZero
  else do return quantity / (← divisor.quantity)

end Number

end SentenceGraph
