import SentenceGraph.Dictionary.Entry
import SentenceGraph.PartOfSpeech
import SentenceGraph.Text.Lowercase

/-!
# Function words

The words that the library can look up by itself: pronouns, forms of *be*, articles and
conjunctions.
-/

namespace SentenceGraph

/-- A function word with its part of speech and its definition. -/
structure FunctionWord where
  word : String
  partOfSpeech : PartOfSpeech
  definition : String

def functionWords : List FunctionWord :=
  [⟨"my", .possessivePronoun, "belonging to me"⟩,
    ⟨"i", .pronoun, "the speaker or writer"⟩,
    ⟨"you", .pronoun, "the person being addressed"⟩,
    ⟨"is", .verb, "third person singular present of be"⟩,
    ⟨"are", .verb, "second person singular and plural present of be"⟩,
    ⟨"am", .verb, "first person singular present of be"⟩,
    ⟨"was", .verb, "past tense of be"⟩,
    ⟨"were", .verb, "past tense plural of be"⟩,
    ⟨"the", .article, "denoting a specific item"⟩,
    ⟨"a", .article, "used before singular nouns"⟩,
    ⟨"an", .article, "used before words starting with vowel sounds"⟩,
    ⟨"and", .conjunction, "connecting words or clauses"⟩,
    ⟨"but", .conjunction, "used to introduce a contrasting statement"⟩,
    ⟨"or", .conjunction, "used to link alternatives"⟩,
    ⟨"if", .conjunction, "introducing a conditional clause"⟩,
    ⟨"when", .conjunction, "at what time"⟩,
    ⟨"because", .conjunction, "for the reason that"⟩]

/-- The function word of this lowercase form. -/
def functionWord? (lowercase : String) : Option FunctionWord :=
  functionWords.find? (·.word == lowercase)

def FunctionWord.entry {R : Type} (functionWord : FunctionWord) : Entry R where
  word := .text functionWord.word
  phonetic := .text ""
  meanings :=
    [{ partOfSpeech := .text functionWord.partOfSpeech.name
       definitions := [⟨.text functionWord.definition, .text ""⟩]
       synonyms := [] }]
  origin := .text ""

/-- The entry of a word that is a function word, in any case. -/
def Entry.ofFunctionWord? {R : Type} (word : String) : Option (Entry R) :=
  (functionWord? (Text.lowercase word)).map FunctionWord.entry

end SentenceGraph
