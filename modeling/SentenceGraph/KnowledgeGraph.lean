import SentenceGraph.SemanticGraph

/-!
# Knowledge graphs

A knowledge graph has a node for each entity and each action of a sentence, and edges between them.
A relationship names its ends by label; where several nodes have the label, the first is meant, and
a relationship with an end that has no node leaves no edge.
-/

namespace SentenceGraph

/-- A node: an entity or an action, with its properties. -/
structure Node (R : Type) where
  id : Int
  kind : String
  label : String
  properties : List (String × Value R) := []
deriving Repr

/-- An edge between two nodes, given by their ids. -/
structure Edge (R : Type) where
  source : Int
  target : Int
  relation : String
  confidence : R
deriving Repr

/-- A graph of nodes and edges, with the intent of its sentence. -/
structure KnowledgeGraph (R : Type) where
  intent : Intent R
  nodes : List (Node R) := []
  edges : List (Edge R) := []
  format : String := "JSON-IR"
  version : String := "2.0"
deriving Repr

variable {R : Type}

namespace Node

/-- The kind of nodes of entities. -/
def entityKind : String := "entity"

def actionKind : String := "action"

def toValue (node : Node R) : Value R :=
  .object
    [("id", .int node.id), ("type", .text node.kind), ("label", .text node.label),
      ("properties", .object node.properties)]

def ofEntity (entity : Entity R) (id : Nat) : Node R where
  id := id
  kind := entityKind
  label := entity.name
  properties :=
    [("role", .text entity.role), ("pos", entity.tag), ("definition", entity.definition),
      ("clause", .int entity.clause), ("confidence", .real entity.confidence)]

def ofAction (action : Action R) (id : Nat) : Node R where
  id := id
  kind := actionKind
  label := action.verb
  properties :=
    [("definition", action.definition), ("actor", .text action.actor),
      ("clause", .int action.clause), ("confidence", .real action.confidence)]

end Node

namespace Edge

def toValue (edge : Edge R) : Value R :=
  .object
    [("from", .int edge.source), ("to", .int edge.target), ("type", .text edge.relation),
      ("confidence", .real edge.confidence)]

end Edge

namespace KnowledgeGraph

def toMembers (graph : KnowledgeGraph R) : List (String × Value R) :=
  [("format", .text graph.format), ("version", .text graph.version),
    ("intent", graph.intent.toValue), ("nodes", .list (graph.nodes.map Node.toValue)),
    ("edges", .list (graph.edges.map Edge.toValue))]

def toValue (graph : KnowledgeGraph R) : Value R :=
  .object graph.toMembers

/-- The nodes of a sentence, numbered from zero: its entities, then its actions. -/
def nodesOf (graph : SemanticGraph R) : List (Node R) :=
  (graph.entities.zipIdx.map fun (entity, index) => Node.ofEntity entity index) ++
    graph.actions.zipIdx.map fun (action, index) =>
      Node.ofAction action (graph.entities.length + index)

/-- The first node of each label, and of each label with each kind, as they come up. -/
structure LabelIndex where
  byLabel : List (String × Int) := []
  byLabelAndKind : List ((String × String) × Int) := []

namespace LabelIndex

/-- Files an id under a key, unless an earlier one has that place. -/
def file {Key : Type} [BEq Key] (entries : List (Key × Int)) (key : Key) (id : Int) :
    List (Key × Int) :=
  match entries.lookup key with
  | some _ => entries
  | none => entries ++ [(key, id)]

/-- Files a node. -/
def insert (index : LabelIndex) (node : Node R) : LabelIndex where
  byLabel := file index.byLabel node.label node.id
  byLabelAndKind := file index.byLabelAndKind (node.label, node.kind) node.id

def ofNodes (nodes : List (Node R)) : LabelIndex :=
  nodes.foldl insert {}

/-- The first node with a label. -/
def any? (index : LabelIndex) (label : String) : Option Int :=
  index.byLabel.lookup label

/-- The first node with a label and a kind. -/
def find? (index : LabelIndex) (label kind : String) : Option Int :=
  index.byLabelAndKind.lookup (label, kind)

end LabelIndex

variable [Quantity R]

def performs (actor action : Int) (confidence : R) : Edge R where
  source := actor
  target := action
  relation := "performs"
  confidence

def affects (action object : Int) : Edge R where
  source := action
  target := object
  relation := "affects"
  confidence := 0.75

def edgesOf (index : LabelIndex) : Relationship R → List (Edge R)
  | .deed subject action objects _ confidence =>
      match index.find? action Node.actionKind with
      | some deed =>
          ((index.find? subject Node.entityKind).map (performs · deed confidence)).toList ++
            (objects.filterMap (index.find? · Node.entityKind)).map (affects deed)
      | none => []
  | .dependency relation head dependent confidence =>
      match index.any? head, index.any? dependent with
      | some source, some target => [{ source, target, relation, confidence }]
      | _, _ => []

def ofSemanticGraph (graph : SemanticGraph R) : KnowledgeGraph R where
  intent := graph.intent
  nodes := nodesOf graph
  edges := graph.relationships.flatMap (edgesOf (.ofNodes (nodesOf graph)))

end KnowledgeGraph

end SentenceGraph
