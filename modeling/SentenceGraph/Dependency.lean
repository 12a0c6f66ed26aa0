import SentenceGraph.Token

/-!
# Dependencies

A dependency relates two words of a sentence. Every token looks at the tokens after it, across
clause boundaries: a nominal for the nearest verbal, a verb for the nearest noun, an adjective at
the next token, and a conjunction at both its neighbours.
-/

namespace SentenceGraph

/-- A relation between two words. -/
structure Dependency (R : Type) where
  head : String
  dependent : String
  relation : String
  confidence : R
  /-- The conjunction, in a relation between the words that it joins. -/
  conjunction : Option String := none
deriving Repr

namespace Dependency

variable {R : Type}

def toValue (dependency : Dependency R) : Value R :=
  .object
    ([("head", .text dependency.head), ("dependent", .text dependency.dependent),
      ("relation", .text dependency.relation), ("confidence", .real dependency.confidence)] ++
      dependency.conjunction.toList.map fun word => ("type", .text word))

/-- What stands for the word before a conjunction at the start of a sentence. -/
def startWord : String := "ROOT"

/-- What stands for the word after a conjunction at the end of a sentence. -/
def endWord : String := "END"

variable [Quantity R]

def subjectOf (nominal verb : String) : Dependency R where
  head := nominal
  dependent := verb
  relation := "nsubj"
  confidence := 0.9

def objectOf (verb noun : String) : Dependency R where
  head := verb
  dependent := noun
  relation := "dobj"
  confidence := 0.85

/-- A noun and the adjective before it. -/
def modifierOf (noun adjective : String) : Dependency R where
  head := noun
  dependent := adjective
  relation := "amod"
  confidence := 0.8

/-- The words on both sides of a conjunction. -/
def conjunctsOf (left right conjunction : String) : Dependency R where
  head := left
  dependent := right
  relation := "conj"
  confidence := 0.75
  conjunction := some conjunction

/-- The first token whose part of speech lies in a class. -/
def nearest (choice : PartOfSpeech → Bool) (tokens : List (Token R)) : Option (Token R) :=
  tokens.find? (·.isTagged choice)

/-- The dependency that a token starts, given the word before it and the tokens after it. -/
def ofToken (before : Option String) (token : Token R) (after : List (Token R)) :
    Option (Dependency R) :=
  match token.partOfSpeech? with
  | some .noun | some .pronoun | some .possessivePronoun =>
      (nearest PartOfSpeech.isVerbal after).map fun verb => subjectOf token.word verb.word
  | some .verb =>
      (nearest (· == .noun) after).map fun noun => objectOf token.word noun.word
  | some .adjective =>
      (after.head?.filter (·.isTagged (· == .noun))).map fun noun =>
        modifierOf noun.word token.word
  | some .conjunction =>
      let right := (after.head?.map Token.word).getD endWord
      some (conjunctsOf (before.getD startWord) right token.word)
  | _ => none

/-- The dependencies that the tokens after a word start. -/
def after (before : Option String) : List (Token R) → List (Dependency R)
  | [] => []
  | token :: rest => (ofToken before token rest).toList ++ after (some token.word) rest

/-- The dependencies of a sentence, in the order of the tokens that start them. -/
def ofTokens (tokens : List (Token R)) : List (Dependency R) :=
  after none tokens

end Dependency

end SentenceGraph
