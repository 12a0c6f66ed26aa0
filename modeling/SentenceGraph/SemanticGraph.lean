import SentenceGraph.Memory
import SentenceGraph.ParseTree
import SentenceGraph.Text.Lowercase

/-!
# Semantic graphs

The semantic graph of a sentence names its entities and actions, clause by clause, and relates them.
Third-person pronouns that are subjects refer to the subject of the newest remembered sentence. Each
item has a fixed confidence of its kind, which is higher if the dictionary knows the word.
-/

namespace SentenceGraph

/-- Someone or something that a clause is about. -/
structure Entity (R : Type) where
  name : String
  /-- The role in the clause, `subject` or `object`. -/
  role : String
  tag : Value R
  definition : Value R
  clause : Int
  confidence : R
deriving Repr

/-- What happens in a clause. -/
structure Action (R : Type) where
  verb : String
  definition : Value R
  actor : String
  clause : Int
  confidence : R
deriving Repr

/-- A relation within a sentence. -/
inductive Relationship (R : Type) where
  /-- The subject of a clause acts upon its objects. -/
  | deed (subject action : String) (objects : List String) (clause : Int) (confidence : R)
  /-- A dependency between two words. -/
  | dependency (relation head dependent : String) (confidence : R)
deriving Repr

/-- What a pronoun stands for. -/
structure Reference (R : Type) where
  pronoun : String
  refersTo : Value R
  confidence : R
deriving Repr

/-- What a sentence says. -/
structure SemanticGraph (R : Type) where
  sentenceType : String
  intent : Intent R
  entities : List (Entity R) := []
  actions : List (Action R) := []
  relationships : List (Relationship R) := []
  references : List (Reference R) := []
  overallConfidence : R
  knownShare : R
deriving Repr

variable {R : Type}

def subjectRole : String := "subject"

def objectRole : String := "object"

/-- What stands for an actor or a referent that is not known. -/
def unknownName : String := "unknown"

namespace Entity

def toValue (entity : Entity R) : Value R :=
  .object
    [("name", .text entity.name), ("role", .text entity.role), ("type", entity.tag),
      ("definition", entity.definition), ("clause", .int entity.clause),
      ("confidence", .real entity.confidence)]

end Entity

namespace Action

def toValue (action : Action R) : Value R :=
  .object
    [("action", .text action.verb), ("definition", action.definition), ("actor", .text action.actor),
      ("clause", .int action.clause), ("confidence", .real action.confidence)]

end Action

namespace Relationship

def toValue : Relationship R → Value R
  | deed subject action objects clause confidence =>
      .object
        [("type", .text "action"), ("subject", .text subject), ("action", .text action),
          ("objects", .ofTexts objects), ("clause", .int clause), ("confidence", .real confidence)]
  | dependency relation head dependent confidence =>
      .object
        [("type", .text "dependency"), ("relation", .text relation), ("head", .text head),
          ("dependent", .text dependent), ("confidence", .real confidence)]

def ofDependency (source : Dependency R) : Relationship R :=
  dependency source.relation source.head source.dependent source.confidence

end Relationship

namespace Reference

def toValue (reference : Reference R) : Value R :=
  .object
    [("pronoun", .text reference.pronoun), ("refers_to", reference.refersTo),
      ("confidence", .real reference.confidence)]

/-- Pronouns that refer to someone or something mentioned before. -/
def pronouns : List String := ["he", "she", "it", "they", "him", "her", "them"]

variable [Quantity R]

/-- What a pronoun stands for: the subject of the newest remembered sentence, if it had one. -/
def resolve (pronoun : String) (memory : ContextMemory R) : Reference R :=
  match memory.last? with
  | some entry =>
      if entry.subject.isGiven then ⟨pronoun, entry.subject, 0.7⟩
      else ⟨pronoun, .text unknownName, 0.3⟩
  | none => ⟨pronoun, .text unknownName, 0.3⟩

end Reference

namespace SemanticGraph

/-- The first subject. -/
def mainSubject? (graph : SemanticGraph R) : Option String :=
  (graph.entities.find? (·.role == subjectRole)).map Entity.name

/-- The first action. -/
def mainAction? (graph : SemanticGraph R) : Option String :=
  graph.actions.head?.map Action.verb

def toValue (graph : SemanticGraph R) : Value R :=
  .object
    [("sentence_type", .text graph.sentenceType), ("intent", graph.intent.toValue),
      ("entities", .list (graph.entities.map Entity.toValue)),
      ("actions", .list (graph.actions.map Action.toValue)),
      ("relationships", .list (graph.relationships.map Relationship.toValue)),
      ("context_references", .list (graph.references.map Reference.toValue)),
      ("confidence_scores",
        .object
          [("overall", .real graph.overallConfidence), ("pos_accuracy", .real graph.knownShare)])]

variable [Quantity R]

/-- Whether the dictionary knows the token that a slot came from, found by its position. -/
def isKnown (tokens : List (Token R)) (slot : Slot R) : Bool :=
  0 ≤ slot.position && (tokens[slot.position.toNat]?.any Token.hasEntry)

def subjectEntity (tokens : List (Token R)) (clause : Nat) (slot : Slot R) : Entity R where
  name := slot.word
  role := subjectRole
  tag := slot.tag
  definition := slot.definition
  clause := clause
  confidence := if isKnown tokens slot then 0.9 else 0.6

def objectEntity (tokens : List (Token R)) (clause : Nat) (slot : Slot R) : Entity R where
  name := slot.word
  role := objectRole
  tag := slot.tag
  definition := slot.definition
  clause := clause
  confidence := if isKnown tokens slot then 0.8 else 0.5

def predicateAction (tokens : List (Token R)) (clause : Nat) (subject : Option (Slot R))
    (slot : Slot R) : Action R where
  verb := slot.word
  definition := slot.definition
  actor := (subject.map Slot.word).getD unknownName
  clause := clause
  confidence := if isKnown tokens slot then 0.85 else 0.5

/-- The entities of a clause: the subject, then the objects. -/
def clauseEntities (tokens : List (Token R)) (clause : Clause R) (index : Nat) : List (Entity R) :=
  (clause.subject.map (subjectEntity tokens index)).toList ++
    clause.objects.map (objectEntity tokens index)

/-- The action of a clause, if it has a predicate. -/
def clauseAction? (tokens : List (Token R)) (clause : Clause R) (index : Nat) : Option (Action R) :=
  clause.predicate.map (predicateAction tokens index clause.subject)

/-- The relationship of a clause that has a subject and a predicate. -/
def clauseDeed? (clause : Clause R) (index : Nat) : Option (Relationship R) := do
  let subject ← clause.subject
  let predicate ← clause.predicate
  return .deed subject.word predicate.word (clause.objects.map Slot.word) index 0.8

/-- The reference of a clause whose subject is a referring pronoun. -/
def clauseReference? (memory : ContextMemory R) (clause : Clause R) : Option (Reference R) := do
  let subject ← clause.subject
  if Reference.pronouns.contains (Text.lowercase subject.word) then
    return Reference.resolve subject.word memory
  else none

/-- The confidences of a clause that count for the whole: those of its action and its objects. -/
def clauseScores (tokens : List (Token R)) (clause : Clause R) (index : Nat) : List R :=
  ((clauseAction? tokens clause index).map Action.confidence).toList ++
    clause.objects.map fun slot => (objectEntity tokens index slot).confidence

/-- The mean of some scores, summed from the first to the last; the middle of the scale for none. -/
def meanScore (scores : List R) : R :=
  if scores.isEmpty then 0.5
  else scores.foldl (· + ·) (Quantity.ofCount 0) / Quantity.ofCount scores.length

/-- The share of tokens that the dictionary knows. -/
def knownShareOf (tokens : List (Token R)) : R :=
  if tokens.isEmpty then 0.0
  else Quantity.ratio (Token.known tokens) tokens.length

/-- The semantic graph of a parsed sentence, in the light of the memory. -/
def ofTree (tree : ParseTree R) (tokens : List (Token R)) (memory : ContextMemory R) :
    SemanticGraph R where
  sentenceType := tree.intent.kind
  intent := tree.intent
  entities := tree.clauses.zipIdx.flatMap fun (clause, index) => clauseEntities tokens clause index
  actions := tree.clauses.zipIdx.filterMap fun (clause, index) => clauseAction? tokens clause index
  relationships :=
    (tree.clauses.zipIdx.filterMap fun (clause, index) => clauseDeed? clause index) ++
      tree.dependencies.map Relationship.ofDependency
  references := tree.clauses.filterMap (clauseReference? memory)
  overallConfidence :=
    meanScore (tree.clauses.zipIdx.flatMap fun (clause, index) => clauseScores tokens clause index)
  knownShare := knownShareOf tokens

/-- What is remembered of a sentence, at a time. -/
def contextEntry (graph : SemanticGraph R) (timestamp : Int) : ContextEntry R where
  subject := .ofText? graph.mainSubject?
  action := .ofText? graph.mainAction?
  timestamp := .int timestamp

end SemanticGraph

end SentenceGraph
