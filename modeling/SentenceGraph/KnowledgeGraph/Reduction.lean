import SentenceGraph.KnowledgeGraph
import SentenceGraph.Value.Order

/-!
# Reduced knowledge graphs

Reducing a graph merges nodes of one label and kind, then drops edges that repeat an earlier one
between the merged nodes, and then drops edges of low confidence. The graph keeps a log of what was
merged and dropped, and the sizes before and after.
-/

namespace SentenceGraph

/-- The sizes of a graph before and after its reduction. -/
structure ReductionStats (R : Type) where
  nodesBefore : Nat
  nodesAfter : Nat
  edgesBefore : Nat
  edgesAfter : Nat
  reductionPercentage : R
deriving Repr

/-- A reduced graph with its log. -/
structure ReducedGraph (R : Type) extends KnowledgeGraph R where
  log : List String := []
  stats : ReductionStats R
deriving Repr

variable {R : Type}

namespace ReductionStats

/-- The document form of the sizes. -/
def toValue (stats : ReductionStats R) : Value R :=
  .object
    [("nodes_before", .ofNat stats.nodesBefore), ("nodes_after", .ofNat stats.nodesAfter),
      ("edges_before", .ofNat stats.edgesBefore), ("edges_after", .ofNat stats.edgesAfter),
      ("reduction_percentage", .real stats.reductionPercentage)]

end ReductionStats

namespace ReducedGraph

def toValue (graph : ReducedGraph R) : Value R :=
  .object
    (graph.toKnowledgeGraph.toMembers ++
      [("optimizations_applied", .ofTexts graph.log), ("optimization_stats", graph.stats.toValue)])

end ReducedGraph

namespace Node

/-- The nodes that are merged into one have the same key: the label and the kind. -/
def key (node : Node R) : String × String :=
  (node.label, node.kind)

variable [Quantity R]

/-- The confidence among the properties of a node; zero if there is none. -/
def confidence (node : Node R) : Value R :=
  (Value.member? node.properties "confidence").getD (.real 0.0)

/-- A node after a second one of its key: it takes over the properties of the second one if those
are more confident. -/
def absorb (node second : Node R) : Except Fault (Node R) :=
  match node.confidence.below? second.confidence with
  | some true => .ok { node with properties := second.properties }
  | some false => .ok node
  | none => .error .wrongShape

end Node

namespace KnowledgeGraph

/-- Edges below this confidence are dropped. -/
def leastConfidence [Quantity R] : R := 0.4

/-- Nodes merged so far, the id that now stands for each id, and the log. -/
structure Merge (R : Type) where
  nodes : List (Node R) := []
  representatives : List (Int × Int) := []
  log : List String := []

namespace Merge

/-- The id that stands for an id; the latest node of the id decides. -/
def representative (merge : Merge R) (id : Int) : Int :=
  (merge.representatives.lookup id).getD id

variable [Quantity R]

/-- Replaces the first node of a key by what becomes of it. -/
def updateFirst (key : String × String) (change : Node R → Except Fault (Node R)) :
    List (Node R) → Except Fault (List (Node R))
  | [] => .ok []
  | node :: rest =>
      if node.key == key then do return (← change node) :: rest
      else do return node :: (← updateFirst key change rest)

/-- Merges one more node. -/
def insert (merge : Merge R) (node : Node R) : Except Fault (Merge R) :=
  match merge.nodes.find? (·.key == node.key) with
  | none =>
      .ok {
        nodes := merge.nodes ++ [node]
        representatives := (node.id, node.id) :: merge.representatives
        log := merge.log }
  | some first => do
      return {
        nodes := ← updateFirst node.key (·.absorb node) merge.nodes
        representatives := (node.id, first.id) :: merge.representatives
        log := merge.log ++ ["Merged duplicate node: " ++ node.label] }

def ofNodes (nodes : List (Node R)) : Except Fault (Merge R) :=
  nodes.foldlM insert {}

omit [Quantity R] in
/-- An edge between the nodes that stand for its ends. -/
def redirect (merge : Merge R) (edge : Edge R) : Edge R :=
  { edge with
    source := merge.representative edge.source
    target := merge.representative edge.target }

end Merge

end KnowledgeGraph

namespace Edge

/-- Edges with one key say the same: the ends and the relation. -/
def key (edge : Edge R) : Int × Int × String :=
  (edge.source, edge.target, edge.relation)

/-- Keeps the first edge of each key, where `seen` holds the keys before; the others are logged. -/
def dropRepeated (seen : List (Int × Int × String)) : List (Edge R) → List (Edge R) × List String
  | [] => ([], [])
  | edge :: rest =>
      if seen.contains edge.key then
        let (kept, log) := dropRepeated seen rest
        (kept, ("Removed redundant edge: " ++ edge.relation) :: log)
      else
        let (kept, log) := dropRepeated (edge.key :: seen) rest
        (edge :: kept, log)

variable [Quantity R]

/-- Whether an edge is dropped for its low confidence. -/
def isWeak (edge : Edge R) : Bool :=
  edge.confidence < (KnowledgeGraph.leastConfidence : R)

/-- The log of a weak edge. -/
def weakEntry (edge : Edge R) : String :=
  "Removed low-confidence edge: " ++ edge.relation ++ " (" ++
    Quantity.fixedText 2 edge.confidence ++ ")"

end Edge

namespace KnowledgeGraph

variable [Quantity R]

/-- The percentage by which a count went down, to two places. -/
def percentageSaved (before after : Nat) : R :=
  if before == 0 then 0.0
  else Quantity.roundTo 2 ((1.0 - Quantity.ratio after before) * (100.0 : R))

/-- The reduced graph. It fails only if confidences of nodes to be merged cannot be compared. -/
def reduce (graph : KnowledgeGraph R) : Except Fault (ReducedGraph R) := do
  let merge ← Merge.ofNodes graph.nodes
  let (distinct, repeatedLog) := Edge.dropRepeated [] (graph.edges.map merge.redirect)
  let kept := distinct.filter fun edge => !edge.isWeak
  let weakLog := (distinct.filter Edge.isWeak).map Edge.weakEntry
  return {
    intent := graph.intent
    nodes := merge.nodes
    edges := kept
    format := graph.format
    version := graph.version
    log := merge.log ++ repeatedLog ++ weakLog
    stats := {
      nodesBefore := graph.nodes.length
      nodesAfter := merge.nodes.length
      edgesBefore := graph.edges.length
      edgesAfter := kept.length
      reductionPercentage := percentageSaved graph.nodes.length merge.nodes.length } }

end KnowledgeGraph

end SentenceGraph
