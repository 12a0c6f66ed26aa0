import SentenceGraph.View

/-!
# The output document

The document of a compilation gathers everything that was found out about a sentence: its tokens,
its semantic graph, its reduced knowledge graph, and the remembered sentences before it.
-/

namespace SentenceGraph

/-- The version that documents name. -/
def compilerVersion : String := "2.0-FULL-FUNCTIONAL"

/-- What a document says about its own making. -/
structure Provenance where
  timestamp : String
  language : String := "en"
  format : String := "json"
  dictionary : String := "dictionaryapi.dev + fallback"
  elapsedMilliseconds : Int := 0

/-- What a document is made of. -/
structure Report (R : Type) where
  text : String
  tokens : List (Token R)
  graph : SemanticGraph R
  reduced : ReducedGraph R
  memory : ContextMemory R
  provenance : Provenance

namespace Report

variable {R : Type} [Quantity R]

/-- How many remembered sentences a document shows. -/
def contextWindow : Int := 3

/-- Below this confidence a document reports an error. -/
def leastConfidence : R := 0.5

/-- Whether the confidence of a graph is too low. -/
def isDoubtful (graph : SemanticGraph R) : Bool :=
  graph.overallConfidence < (leastConfidence : R)

/-- Whether a compilation with this graph counts as a success. -/
def isConfident (graph : SemanticGraph R) : Bool :=
  (leastConfidence : R) ≤ graph.overallConfidence

/-- What a document says for a subject or an action that the sentence lacks. -/
def nameOrNone (name : Option String) : Value R :=
  .text (match name with
    | none | some "" => "N/A"
    | some name => name)

/-- The part of a document about its own making. -/
def metadata (report : Report R) : Value R :=
  .object
    [("compiler_version", .text compilerVersion), ("timestamp", .text report.provenance.timestamp),
      ("source_language", .text report.provenance.language),
      ("target_format", .text report.provenance.format),
      ("total_words", .ofNat report.tokens.length),
      ("dictionary_api", .text report.provenance.dictionary),
      ("compilation_time_ms", .int report.provenance.elapsedMilliseconds),
      ("confidence_score", .real (Quantity.roundTo 3 report.graph.overallConfidence))]

/-- The part of a document that sums it up. -/
def overview (graph : SemanticGraph R) : Value R :=
  .object
    [("main_subject", nameOrNone graph.mainSubject?), ("main_action", nameOrNone graph.mainAction?),
      ("entity_count", .ofNat graph.entities.length),
      ("relationship_count", .ofNat graph.relationships.length),
      ("confidence", .text (percentText graph.overallConfidence))]

/-- What a document says about low confidence. -/
def doubtReason : String := "Low confidence in parsing"

/-- The part of a document that reports low confidence. -/
def errorHandling (graph : SemanticGraph R) : Value R :=
  if isDoubtful graph then
    .object
      [("has_errors", .bool true), ("error_reason", .text doubtReason),
        ("suggestions", .ofTexts ["Try simpler sentence structure", "Check spelling"])]
  else
    .object [("has_errors", .bool false), ("error_reason", .null), ("suggestions", .list [])]

def document (report : Report R) : Document R :=
  [("metadata", report.metadata), ("original_text", .text report.text),
    ("intent", report.graph.intent.toValue),
    ("tokens", .list (report.tokens.map Token.toSummary)),
    ("semantic_structure", report.graph.toValue), ("knowledge_graph", report.reduced.toValue),
    ("context_memory", .list ((report.memory.recent contextWindow).map ContextEntry.toValue)),
    ("summary", overview report.graph), ("error_handling", errorHandling report.graph)]

end Report

end SentenceGraph
