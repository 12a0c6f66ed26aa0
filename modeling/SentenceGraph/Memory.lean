import SentenceGraph.Value.Inline

/-!
# Context memory

A context memory holds the subjects and actions of the last sentences, oldest first. It is bounded:
when it is full, the oldest entry makes room for a new one.
-/

namespace SentenceGraph

/-- What is remembered of a sentence. Stored entries may hold any values. -/
structure ContextEntry (R : Type) where
  subject : Value R
  action : Value R
  timestamp : Value R
deriving Repr, Inhabited

/-- How many entries a memory holds: a positive count. A stored `true` counts as one. -/
inductive Capacity where
  | count (size : Nat)
  | truth
deriving DecidableEq, Repr

/-- The last entries of a sentence history, up to a capacity. -/
structure ContextMemory (R : Type) where
  capacity : Capacity
  entries : List (ContextEntry R)
deriving Repr

variable {R : Type}

namespace ContextEntry

def toValue (entry : ContextEntry R) : Value R :=
  .object
    [("subject", entry.subject), ("action", entry.action), ("timestamp", entry.timestamp)]

/-- The entry of a document form; missing parts are null, a missing time is zero. -/
def ofValue (value : Value R) : Except Fault (ContextEntry R) := do
  let members ← value.members?
  let part (key : String) (default : Value R) := (Value.member? members key).getD default
  return {
    subject := part "subject" .null
    action := part "action" .null
    timestamp := part "timestamp" (.int 0) }

end ContextEntry

namespace Capacity

/-- The number of entries. -/
def size : Capacity → Nat
  | count size => size
  | truth => 1

/-- The capacity of a memory that is not told otherwise. -/
def default : Capacity := count 5

/-- The greatest count of entries that a machine can hold. -/
def greatest : Int := 9223372036854775807

/-- The capacity of a count, which has to be positive. -/
def ofInt (number : Int) : Except Fault Capacity :=
  if number < 1 then .error (.capacityTooSmall (Decimal.integerText number))
  else if greatest < number then .error .capacityTooLarge
  else .ok (count number.toNat)

/-- The capacity that a value stands for. A quantity below one is too small like any number, but no
other quantity is a count. -/
def ofValue [Quantity R] : Value R → Except Fault Capacity
  | .int number => ofInt number
  | .bool true => .ok truth
  | .bool false => .error (.capacityTooSmall (Value.inline (.bool false : Value R)))
  | .real quantity =>
      if quantity < (1.0 : R) then .error (.capacityTooSmall (Quantity.text quantity))
      else .error .wrongShape
  | _ => .error .wrongShape

def toValue : Capacity → Value R
  | count size => .int size
  | truth => .bool true

end Capacity

/-- The last items of a list, up to a count. -/
def lastItems {α : Type} (count : Nat) (items : List α) : List α :=
  items.drop (items.length - count)

namespace ContextMemory

/-- The memory of these entries, as far as the capacity goes. -/
def ofEntries (capacity : Capacity) (entries : List (ContextEntry R)) : ContextMemory R where
  capacity
  entries := lastItems capacity.size entries

/-- A memory without entries. -/
def empty (capacity : Capacity) : ContextMemory R :=
  ofEntries capacity []

/-- Remembers one more entry. -/
def append (memory : ContextMemory R) (entry : ContextEntry R) : ContextMemory R :=
  ofEntries memory.capacity (memory.entries ++ [entry])

/-- The newest entry. -/
def last? (memory : ContextMemory R) : Option (ContextEntry R) :=
  memory.entries.getLast?

/-- The newest entries, oldest first; none for a count that is not positive. -/
def recent (memory : ContextMemory R) (count : Int) : List (ContextEntry R) :=
  lastItems count.toNat memory.entries

/-- Forgets all entries. -/
def clear (memory : ContextMemory R) : ContextMemory R :=
  { memory with entries := [] }

/-- The document form of the entries. -/
def toValues (memory : ContextMemory R) : List (Value R) :=
  memory.entries.map ContextEntry.toValue

/-- The entries of a document form. -/
def readEntries (value : Value R) : Except Fault (List (ContextEntry R)) :=
  match value.elements? with
  | some items => items.mapM ContextEntry.ofValue
  | none => .error .wrongShape

/-- The memory of a document form, with a capacity that may turn out to be none. -/
def ofValue [Quantity R] (value capacity : Value R) : Except Fault (ContextMemory R) := do
  let entries ← readEntries value
  return ofEntries (← Capacity.ofValue capacity) entries

end ContextMemory

end SentenceGraph
