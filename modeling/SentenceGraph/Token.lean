import SentenceGraph.Dictionary.Entry
import SentenceGraph.PartOfSpeech

/-!
# Tokens

A token is a word of the sentence together with what the dictionary says about it.
-/

namespace SentenceGraph

/-- A word of a sentence. -/
structure Token (R : Type) where
  /-- The place of the word, from zero. -/
  index : Int
  word : String
  lowercase : String
  /-- The tag; a dictionary may put any value here. -/
  tag : Value R
  entry : Option (Entry R)
  definition : Value R
  synonyms : List (Value R)
deriving Repr

namespace Token

variable {R : Type}

/-- Whether the dictionary knows the word. -/
def hasEntry (token : Token R) : Bool :=
  token.entry.isSome

/-- The part of speech of a token, if its tag is one of the grammar. -/
def partOfSpeech? (token : Token R) : Option PartOfSpeech :=
  PartOfSpeech.ofValue? token.tag

/-- Whether the part of speech of a token lies in a class. -/
def isTagged (token : Token R) (choice : PartOfSpeech → Bool) : Bool :=
  token.partOfSpeech?.any choice

/-- How many tokens of a sentence the dictionary knows. -/
def known (tokens : List (Token R)) : Nat :=
  tokens.countP hasEntry

/-- The full document form of a token. -/
def toValue (token : Token R) : Value R :=
  .object
    [("id", .int token.index), ("text", .text token.word), ("lowercase", .text token.lowercase),
      ("pos", token.tag),
      ("dictionaryEntry", (token.entry.map Entry.toValue).getD .null),
      ("definition", token.definition), ("synonyms", .list token.synonyms),
      ("hasDictEntry", .bool token.hasEntry)]

/-- The short document form of a token. -/
def toSummary (token : Token R) : Value R :=
  .object
    [("word", .text token.word), ("pos", token.tag), ("definition", token.definition),
      ("synonyms", .list token.synonyms)]

end Token

end SentenceGraph
