import SentenceGraph.Value

/-!
# Parts of speech

The parts of speech that the grammar of this library tells apart. A dictionary may give a word any
other part of speech; such a word takes no part in clauses and dependencies.
-/

namespace SentenceGraph

/-- The parts of speech of the grammar. -/
inductive PartOfSpeech where
  | noun
  | pronoun
  | possessivePronoun
  | demonstrativePronoun
  | verb
  | modalVerb
  | adverb
  | adjective
  | preposition
  | conjunction
  | article
deriving DecidableEq, Repr

namespace PartOfSpeech

def name : PartOfSpeech → String
  | noun => "noun"
  | pronoun => "pronoun"
  | possessivePronoun => "possessive-pronoun"
  | demonstrativePronoun => "demonstrative-pronoun"
  | verb => "verb"
  | modalVerb => "modal-verb"
  | adverb => "adverb"
  | adjective => "adjective"
  | preposition => "preposition"
  | conjunction => "conjunction"
  | article => "article"

def all : List PartOfSpeech :=
  [noun, pronoun, possessivePronoun, demonstrativePronoun, verb, modalVerb, adverb, adjective,
    preposition, conjunction, article]

/-- The part of speech that a value names. -/
def ofValue? {R : Type} : Value R → Option PartOfSpeech
  | .text name => all.find? (·.name == name)
  | _ => none

/-- Parts of speech that can be the subject of a clause. -/
def isNominal : PartOfSpeech → Bool
  | noun | pronoun | possessivePronoun => true
  | _ => false

/-- Parts of speech that can be the predicate of a clause. -/
def isVerbal : PartOfSpeech → Bool
  | verb | modalVerb => true
  | _ => false

/-- Parts of speech that modify a clause. -/
def isModifier : PartOfSpeech → Bool
  | adjective | adverb | article | preposition => true
  | _ => false

end PartOfSpeech

end SentenceGraph
