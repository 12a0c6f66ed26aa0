import SentenceGraph.KnowledgeGraph.Reduction
import SentenceGraph.Rendering

/-!
# Plain-text views

Every phase of a compilation can show its result as a few lines of text, and sums it up in one line.
-/

namespace SentenceGraph

variable {R : Type} [Quantity R]

def linesText (lines : List String) : String :=
  "\n".intercalate lines

/-- Lines as one text, or a remark if there are none. -/
def linesOr (remark : String) (lines : List String) : String :=
  if lines.isEmpty then remark else linesText lines

/-- A score as a percentage. -/
def percentText (score : R) : String :=
  Quantity.fixedText 1 (score * (100.0 : R)) ++ "%"

def inBrackets (confidence : R) : String :=
  "(" ++ Quantity.text confidence ++ ")"

/-- Words between commas, or a dash if there are none. -/
def wordsOrDash (words : List String) : String :=
  let joined := ",".intercalate words
  if joined == "" then "-" else joined

namespace Token

/-- The line of a token: its definition is shown if the dictionary knows it. -/
def viewLine (token : Token R) : String :=
  Decimal.integerText token.index ++ ": " ++ token.word ++ " [" ++ token.tag.inline ++ "]" ++
    if token.hasEntry then " " ++ token.definition.inline else ""

def view (tokens : List (Token R)) : String :=
  linesOr "# no tokens" (tokens.map viewLine)

/-- The percentage of tokens that the dictionary knows. -/
def accuracy (tokens : List (Token R)) : R :=
  if tokens.isEmpty then 0.0
  else Quantity.ratio (known tokens) tokens.length * (100.0 : R)

/-- The tokens of a sentence in one line. -/
def summary (tokens : List (Token R)) : String :=
  "Processed " ++ Decimal.naturalText tokens.length ++ " tokens | " ++
    Decimal.naturalText (known tokens) ++ " dictionary hits | POS accuracy: " ++
    Quantity.fixedText 1 (accuracy tokens) ++ "%"

end Token

namespace Clause

def viewLine (clause : Clause R) (index : Nat) : String :=
  let word (slot : Option (Slot R)) := (slot.map Slot.word).getD "-"
  "[" ++ Decimal.naturalText index ++ "] subj=" ++ word clause.subject ++ " pred=" ++
    word clause.predicate ++ " obj=" ++ wordsOrDash (clause.objects.map Slot.word) ++ " mod=" ++
    wordsOrDash (clause.modifiers.map Slot.word)

end Clause

namespace Dependency

def viewLine (dependency : Dependency R) : String :=
  let remark :=
    match dependency.conjunction with
    | none | some "" => ""
    | some word => " (" ++ word ++ ")"
  dependency.relation ++ "(" ++ dependency.head ++ ", " ++ dependency.dependent ++ ") " ++
    Quantity.text dependency.confidence ++ remark

end Dependency

namespace ParseTree

def view (tree : ParseTree R) : String :=
  linesText
    (("intent: " ++ tree.intent.kind ++ " " ++ inBrackets tree.intent.confidence) ::
      ((tree.clauses.zipIdx.map fun (clause, index) => clause.viewLine index) ++
        tree.dependencies.map Dependency.viewLine))

/-- A parse tree in one line. -/
def summary (tree : ParseTree R) : String :=
  "Intent: " ++ tree.intent.kind ++ " (" ++ percentText tree.intent.confidence ++
    " confidence) | " ++ Decimal.naturalText tree.clauses.length ++ " clause(s) | " ++
    Decimal.naturalText tree.dependencies.length ++ " dependencies"

end ParseTree

namespace SemanticGraph

def relationshipLine : Relationship R → String
  | .deed subject action objects _ confidence =>
      subject ++ " -" ++ action ++ "-> [" ++ ", ".intercalate objects ++ "] " ++
        inBrackets confidence
  | .dependency relation head dependent confidence =>
      relation ++ "(" ++ head ++ ", " ++ dependent ++ ") " ++ inBrackets confidence

def referenceLine (reference : Reference R) : String :=
  reference.pronoun ++ " → " ++ reference.refersTo.inline ++ " " ++ inBrackets reference.confidence

def view (graph : SemanticGraph R) : String :=
  let entityLine (entity : Entity R) :=
    entity.name ++ " : " ++ entity.role ++ " @ " ++ Decimal.integerText entity.clause ++ " " ++
      inBrackets entity.confidence
  let actionLine (action : Action R) :=
    action.verb ++ " by " ++ action.actor ++ " @ " ++ Decimal.integerText action.clause ++ " " ++
      inBrackets action.confidence
  let references := graph.references.map referenceLine
  linesText
    ("# entities" :: graph.entities.map entityLine ++
      "# actions" :: graph.actions.map actionLine ++
      "# relationships" :: graph.relationships.map relationshipLine ++
      (if references.isEmpty then [] else "# references" :: references) ++
      ["# confidence overall=" ++ Quantity.fixedText 3 graph.overallConfidence ++
        " pos_accuracy=" ++ Quantity.fixedText 3 graph.knownShare])

/-- A semantic graph in one line. -/
def summary (graph : SemanticGraph R) : String :=
  Decimal.naturalText graph.entities.length ++ " entities | " ++
    Decimal.naturalText graph.actions.length ++ " actions | " ++
    Decimal.naturalText graph.relationships.length ++ " relationships | Confidence: " ++
    percentText graph.overallConfidence

end SemanticGraph

namespace KnowledgeGraph

/-- The label of a node; of nodes with one id the last counts, and an id without node stands for
itself. -/
def labelOf (graph : KnowledgeGraph R) (id : Int) : String :=
  match graph.nodes.reverse.find? (·.id == id) with
  | some node => node.label
  | none => Decimal.integerText id

/-- The lines of the nodes and the edges. -/
def viewLines (graph : KnowledgeGraph R) : List String :=
  let nodeLine (node : Node R) :=
    Decimal.integerText node.id ++ ": " ++ node.label ++ " [" ++ node.kind ++ "]"
  let edgeLine (edge : Edge R) :=
    graph.labelOf edge.source ++ " -" ++ edge.relation ++ "-> " ++ graph.labelOf edge.target ++ " " ++
      inBrackets edge.confidence
  graph.nodes.map nodeLine ++ graph.edges.map edgeLine

/-- What the view of a graph without nodes and edges says. -/
def emptyRemark : String := "# empty graph"

def view (graph : KnowledgeGraph R) : String :=
  linesOr emptyRemark graph.viewLines

/-- A graph in one line. -/
def summary (graph : KnowledgeGraph R) : String :=
  "Generated IR v" ++ graph.version ++ " | " ++ Decimal.naturalText graph.nodes.length ++
    " nodes | " ++ Decimal.naturalText graph.edges.length ++ " edges"

end KnowledgeGraph

namespace ReducedGraph

/-- The view of a reduced graph, with its log. -/
def view (graph : ReducedGraph R) : String :=
  linesOr KnowledgeGraph.emptyRemark
    (graph.toKnowledgeGraph.viewLines ++ graph.log.map ("# " ++ ·))

/-- A reduction in one line. -/
def summary (graph : ReducedGraph R) : String :=
  Decimal.naturalText graph.log.length ++ " optimizations | Reduced " ++
    Quantity.fixedText 2 graph.stats.reductionPercentage ++ "% | " ++
    Decimal.naturalText graph.stats.nodesAfter ++ " nodes final"

end ReducedGraph

end SentenceGraph
