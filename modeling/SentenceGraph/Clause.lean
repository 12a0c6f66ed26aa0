import SentenceGraph.Token

/-!
# Clauses

A sentence is cut into clauses at its coordinating conjunctions. Within a clause the first nominal
is the subject, the first verbal the predicate, the nouns after the predicate are the objects, and
adjectives, adverbs, articles and prepositions are the modifiers. Other tokens fill no slot.
-/

namespace SentenceGraph

/-- A token in its place within a clause. -/
structure Slot (R : Type) where
  word : String
  tag : Value R
  position : Int
  definition : Value R
deriving Repr

/-- A clause. Complements are part of the form, but no rule fills them. -/
structure Clause (R : Type) where
  subject : Option (Slot R) := none
  predicate : Option (Slot R) := none
  objects : List (Slot R) := []
  modifiers : List (Slot R) := []
  complements : List (Slot R) := []
deriving Repr

variable {R : Type}

namespace Slot

def ofToken (token : Token R) : Slot R where
  word := token.word
  tag := token.tag
  position := token.index
  definition := token.definition

def toValue (slot : Slot R) : Value R :=
  .object
    [("word", .text slot.word), ("type", slot.tag), ("position", .int slot.position),
      ("definition", slot.definition)]

end Slot

namespace Clause

/-- A clause without subject, predicate, objects and modifiers. -/
def isEmpty (clause : Clause R) : Bool :=
  clause.subject.isNone && clause.predicate.isNone && clause.objects.isEmpty &&
    clause.modifiers.isEmpty

def toValue (clause : Clause R) : Value R :=
  .object
    [("subject", (clause.subject.map Slot.toValue).getD .null),
      ("predicate", (clause.predicate.map Slot.toValue).getD .null),
      ("objects", .list (clause.objects.map Slot.toValue)),
      ("modifiers", .list (clause.modifiers.map Slot.toValue)),
      ("complements", .list (clause.complements.map Slot.toValue))]

/-- The words at which a sentence is cut, if they are conjunctions. -/
def cuttingWords : List String := ["and", "or", "but"]

def isCut (token : Token R) : Bool :=
  token.isTagged (· == .conjunction) && cuttingWords.contains token.lowercase

/-- Puts a token into the slot that it fills in a clause, if there is one. -/
def place (clause : Clause R) (token : Token R) : Clause R :=
  if token.isTagged PartOfSpeech.isNominal && clause.subject.isNone then
    { clause with subject := some (.ofToken token) }
  else if token.isTagged PartOfSpeech.isVerbal then
    if clause.predicate.isNone then { clause with predicate := some (.ofToken token) } else clause
  else if token.isTagged (· == .noun) && clause.predicate.isSome then
    { clause with objects := clause.objects ++ [.ofToken token] }
  else if token.isTagged PartOfSpeech.isModifier then
    { clause with modifiers := clause.modifiers ++ [.ofToken token] }
  else clause

/-- The clauses of a sentence whose first clause has been read in part. -/
def continued (current : Clause R) : List (Token R) → List (Clause R)
  | [] => [current]
  | token :: rest =>
      if isCut token then current :: continued {} rest else continued (current.place token) rest

/-- The clauses of a sentence. There is always one more than cuts, and clauses may be empty. -/
def ofTokens (tokens : List (Token R)) : List (Clause R) :=
  continued {} tokens

end Clause

end SentenceGraph
