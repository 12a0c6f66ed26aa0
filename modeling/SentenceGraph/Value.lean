import SentenceGraph.Fault
import SentenceGraph.Quantity

/-!
# Values

Documents, dictionary replies and stored sessions are values: null, truth values, integers of any
size, quantities, texts, lists, and objects whose members keep their order.
-/

namespace SentenceGraph

/-- A value of a document, over a type of quantities. -/
inductive Value (R : Type) where
  | null
  | bool (truth : Bool)
  | int (number : Int)
  | real (quantity : R)
  | text (text : String)
  | list (items : List (Value R))
  | object (members : List (String × Value R))
deriving Inhabited, Repr

namespace Value

variable {R : Type}

def shape : Value R → Shape
  | null => .nothing
  | bool _ => .truth
  | int _ => .integer
  | real _ => .real
  | text _ => .text
  | list _ => .list
  | object _ => .mapping

/-- A text, or null where there is none. -/
def ofText? : Option String → Value R
  | none => null
  | some content => text content

/-- A natural number as a value. -/
def ofNat (number : Nat) : Value R :=
  int number

def ofTexts (texts : List String) : Value R :=
  list (texts.map text)

/-- Whether a value counts as given: null, false, zero and everything empty do not. -/
def isGiven [Quantity R] : Value R → Bool
  | null => false
  | bool truth => truth
  | int number => number != 0
  | real quantity => !Quantity.isZero quantity
  | text content => content != ""
  | list items => !items.isEmpty
  | object members => !members.isEmpty

/-- The value itself if it counts as given, otherwise the replacement. -/
def orElse [Quantity R] (value replacement : Value R) : Value R :=
  if value.isGiven then value else replacement

/-- A member of an object, by its key. -/
def member? (members : List (String × Value R)) (key : String) : Option (Value R) :=
  members.lookup key

/-- The members of a value that is asked for the member `get`: only objects have it. -/
def members? : Value R → Except Fault (List (String × Value R))
  | object members => .ok members
  | other => .error (.noSuchMember other.shape "get")

/-- What a value yields when it is run through: a list its items, a text its characters, an object
its keys. Other values cannot be run through. -/
def elements? : Value R → Option (List (Value R))
  | list items => some items
  | text content => some (content.toList.map fun character => text (String.singleton character))
  | object members => some (members.map fun member => text member.1)
  | _ => none

end Value

end SentenceGraph
