import SentenceGraph.Dictionary.Entry

/-!
# Entries from dictionary replies

The body of a reply is a list of entries, of which the first counts. A meaning keeps its first two
definitions and its first three synonyms; what lies beyond is not looked at. A reply that cannot be
read fails the lookup, with one exception: a meaning that is no object is a fault of its own.
-/

namespace SentenceGraph.Entry

variable {R : Type} [Quantity R]

/-- How many definitions of a meaning are kept. -/
def keptDefinitions : Nat := 2

/-- How many synonyms of a meaning are kept. -/
def keptSynonyms : Nat := 3

/-- A part of the reply of a shape that cannot be read. -/
def malformed {α : Type} : Except Fault α :=
  .error (.lookupFailed .malformed)

/-- A member that has to be there. -/
def required (members : List (String × Value R)) (key : String) : Except Fault (Value R) :=
  match Value.member? members key with
  | some value => .ok value
  | none => .error (.lookupFailed (.missingKey key))

/-- A member that may be missing or empty, which stands for the empty text. -/
def optionalText (members : List (String × Value R)) (key : String) : Value R :=
  ((Value.member? members key).getD .null).orElse (.text "")

/-- The items of a list or the characters of a text, up to a count. -/
def firstItems (count : Nat) : Value R → Except Fault (List (Value R))
  | .list items => .ok (items.take count)
  | .text content =>
      .ok ((content.toList.take count).map fun character => .text (String.singleton character))
  | _ => malformed

/-- A definition of the reply. -/
def readDefinition : Value R → Except Fault (Definition R)
  | .object members => do
      let statement ← required members "definition"
      return { statement, usage := optionalText members "example" }
  | _ => malformed

/-- The synonyms of a meaning: whatever is given can be run through. -/
def readSynonyms (members : List (String × Value R)) : Except Fault (List (Value R)) :=
  let given := (Value.member? members "synonyms").getD .null
  if given.isGiven then
    match given.elements? with
    | some synonyms => .ok (synonyms.take keptSynonyms)
    | none => malformed
  else .ok []

/-- A meaning of the reply. -/
def readMeaning (meaning : Value R) : Except Fault (Meaning R) := do
  let members ← meaning.members?
  let given ← firstItems keptDefinitions ((Value.member? members "definitions").getD (.list []))
  let definitions ← given.mapM readDefinition
  let partOfSpeech ← required members "partOfSpeech"
  let synonyms ← readSynonyms members
  return { partOfSpeech, definitions, synonyms }

def readMeanings (members : List (String × Value R)) : Except Fault (List (Meaning R)) :=
  match ((Value.member? members "meanings").getD (.list [])).elements? with
  | some meanings => meanings.mapM readMeaning
  | none => malformed

/-- The entry of a reply, from the members of its first item. -/
def ofMembers (members : List (String × Value R)) : Except Fault (Entry R) := do
  let meanings ← readMeanings members
  let word ← required members "word"
  return {
    word
    phonetic := optionalText members "phonetic"
    meanings
    origin := optionalText members "origin" }

/-- The entry of a reply. -/
def ofPayload : Value R → Except Fault (Entry R)
  | .list (.object members :: _) => ofMembers members
  | _ => .error (.lookupFailed .unexpectedPayload)

end SentenceGraph.Entry
