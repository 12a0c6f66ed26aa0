import SentenceGraph.Value

/-!
# Dictionary entries

An entry holds the meanings of a word. What a remote dictionary says is kept as it came: a part of
speech, a definition or a synonym is a text in practice, but any value is carried along.
-/

namespace SentenceGraph

/-- One definition of a word, with an example of its use. -/
structure Definition (R : Type) where
  statement : Value R
  usage : Value R
deriving Repr

/-- One meaning of a word. -/
structure Meaning (R : Type) where
  partOfSpeech : Value R
  definitions : List (Definition R)
  synonyms : List (Value R)
deriving Repr

/-- What a dictionary says about a word. -/
structure Entry (R : Type) where
  word : Value R
  phonetic : Value R
  meanings : List (Meaning R)
  origin : Value R
deriving Repr

/-- The definition of a word that has none. -/
def noDefinition : String := "No definition available"

variable {R : Type}

def Definition.toValue (definition : Definition R) : Value R :=
  .object [("definition", definition.statement), ("example", definition.usage)]

def Meaning.toValue (meaning : Meaning R) : Value R :=
  .object
    [("partOfSpeech", meaning.partOfSpeech),
      ("definitions", .list (meaning.definitions.map Definition.toValue)),
      ("synonyms", .list meaning.synonyms)]

namespace Entry

/-- The part of speech of the first meaning. -/
def firstPartOfSpeech? (entry : Entry R) : Option (Value R) :=
  entry.meanings.head?.map Meaning.partOfSpeech

/-- The first definition of the first meaning. -/
def firstDefinition? (entry : Entry R) : Option (Value R) := do
  let meaning ← entry.meanings.head?
  let definition ← meaning.definitions.head?
  return definition.statement

/-- The synonyms of the first meaning. -/
def firstSynonyms (entry : Entry R) : List (Value R) :=
  (entry.meanings.head?.map Meaning.synonyms).getD []

def toValue (entry : Entry R) : Value R :=
  .object
    [("word", entry.word), ("phonetic", entry.phonetic),
      ("meanings", .list (entry.meanings.map Meaning.toValue)), ("origin", entry.origin)]

end Entry

end SentenceGraph
