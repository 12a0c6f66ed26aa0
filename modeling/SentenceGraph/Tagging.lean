import SentenceGraph.Dictionary.FunctionWords
import SentenceGraph.Text.Affix
import SentenceGraph.Text.Words
import SentenceGraph.Token

/-!
# Tagging

A word is tagged by the first of these that applies: the first meaning of its dictionary entry, the
function words, the rules below in their order, and at last the tag of nouns. Rules look at the
lowercase form of the word alone.
-/

namespace SentenceGraph.Tagging

def personalPronouns : List String :=
  ["i", "you", "he", "she", "it", "we", "they", "me", "him", "her", "us", "them"]

def possessivePronouns : List String := ["my", "your", "his", "her", "its", "our", "their"]

def demonstrativePronouns : List String := ["this", "that", "these", "those"]

/-- Forms of *be*. -/
def copulas : List String := ["is", "are", "am", "was", "were", "be", "been", "being"]

/-- Words on *-ing* that are no verbs. -/
def ingNouns : List String := ["thing", "ring", "king", "sing", "wing"]

/-- Words on *-ed* that are no verbs. -/
def edWords : List String := ["red", "bed", "fed", "led"]

/-- Modal verbs. -/
def modals : List String :=
  ["can", "could", "will", "would", "shall", "should", "may", "might", "must"]

def adjectiveEndings : List String := ["ful", "less", "ous", "ive", "able"]

def prepositions : List String :=
  ["in", "on", "at", "by", "for", "with", "from", "to", "of", "about", "under", "over"]

def conjunctions : List String :=
  ["and", "or", "but", "if", "when", "because", "although", "while", "unless"]

def articles : List String := ["the", "a", "an"]

/-- A rule: its name, the words that it applies to, and their part of speech. -/
structure Rule where
  name : String
  applies : String → Bool
  partOfSpeech : PartOfSpeech

/-- The rules, in the order in which they are tried. -/
def rules : List Rule :=
  [⟨"personal-pronoun", personalPronouns.contains, .pronoun⟩,
    ⟨"possessive-pronoun", possessivePronouns.contains, .possessivePronoun⟩,
    ⟨"demonstrative-pronoun", demonstrativePronouns.contains, .demonstrativePronoun⟩,
    ⟨"copula", copulas.contains, .verb⟩,
    ⟨"suffix-ing", fun word => Text.hasEnding word "ing" && !ingNouns.contains word, .verb⟩,
    ⟨"suffix-ed", fun word => Text.hasEnding word "ed" && !edWords.contains word, .verb⟩,
    ⟨"modal", modals.contains, .modalVerb⟩,
    ⟨"suffix-ly", fun word => Text.hasEnding word "ly", .adverb⟩,
    ⟨"adjective-suffix", fun word => adjectiveEndings.any (Text.hasEnding word), .adjective⟩,
    ⟨"preposition", prepositions.contains, .preposition⟩,
    ⟨"conjunction", conjunctions.contains, .conjunction⟩,
    ⟨"article", articles.contains, .article⟩]

/-- A tag and what it rests on. -/
structure Verdict (R : Type) where
  tag : Value R
  reason : String

/-- The tag of a word that no dictionary entry decides, from its lowercase form. -/
def byForm (lowercase : String) : PartOfSpeech × String :=
  match functionWord? lowercase with
  | some functionWord => (functionWord.partOfSpeech, "fallback")
  | none =>
      match rules.find? (·.applies lowercase) with
      | some rule => (rule.partOfSpeech, rule.name)
      | none => (.noun, "default")

variable {R : Type} [Quantity R]

/-- The tag of a word and what it rests on. -/
def explain (word : String) (entry : Option (Entry R)) : Verdict R :=
  match entry.bind Entry.firstPartOfSpeech? with
  | some tag => ⟨tag, "dictionary"⟩
  | none =>
      let (partOfSpeech, reason) := byForm (Text.lowercase word)
      ⟨.text partOfSpeech.name, reason⟩

/-- The token of a word at a place. -/
def token (index : Nat) (word : String) (entry : Option (Entry R)) : Token R where
  index := index
  word
  lowercase := Text.lowercase word
  tag := (explain word entry).tag
  entry
  definition :=
    ((entry.bind Entry.firstDefinition?).getD .null).orElse (.text noDefinition)
  synonyms := (entry.map Entry.firstSynonyms).getD []

/-- The tokens of words with their entries. -/
def tokens (words : List String) (entries : List (Option (Entry R))) : List (Token R) :=
  (words.zip entries).zipIdx.map fun ((word, entry), index) => token index word entry

end SentenceGraph.Tagging
