import SentenceGraph.Dictionary.Resolver
import SentenceGraph.Phase.Run
import SentenceGraph.Report
import SentenceGraph.Tagging

/-!
# The standard phases

A sentence is compiled in six phases: its words are looked up and tagged, parsed, read as a semantic
graph, turned into a knowledge graph, reduced, and written out as a document. A phase that is handed
a text in place of the result that it needs breaks down at the first member it asks of that text.
-/

namespace SentenceGraph

/-- A document and its rendering. -/
structure Rendered (R : Type) where
  format : Format
  document : Document R
  text : String

/-- The results of phases. Phases from outside produce texts. -/
inductive Artifact (R : Type) where
  | tokens (tokens : List (Token R))
  | tree (tree : ParseTree R)
  | semantics (graph : SemanticGraph R)
  | knowledge (graph : KnowledgeGraph R)
  | reduction (graph : ReducedGraph R)
  | rendered (output : Rendered R)
  | text (content : String)

/-- What the phases of a compilation share. -/
structure Surroundings (R : Type) where
  /-- Where words are looked up; the function words alone if there is nothing. -/
  resolver : Option (Resolver R) := none
  /-- The name of the dictionary in documents. -/
  dictionary : String := "fallback"
  /-- The memory of earlier sentences. -/
  memory : ContextMemory R := .empty .default
  /-- When the compilation began, in seconds of some clock. -/
  started : Option R := none
  /-- When the document is written, on the same clock. -/
  writing : R
  /-- The date of the document. -/
  timestamp : String

variable {R : Type} [Quantity R]

namespace Artifact

/-- What happens when a phase asks an unfitting result for a member. -/
def unfitting {α : Type} (artifact : Artifact R) (member : String) : Except Fault α :=
  match artifact with
  | text _ => .error (.noSuchMember .text member)
  | _ => .error .wrongShape

/-- The tokens that a phase needs. Of a text its characters are taken for them, which goes unnoticed
if there are none. -/
def asTokens (member : String) : Artifact R → Except Fault (List (Token R))
  | tokens found => .ok found
  | text content =>
      if content.isEmpty then .ok [] else unfitting (text content : Artifact R) member
  | other => other.unfitting member

/-- The parse tree that a phase needs. -/
def asTree (member : String) : Artifact R → Except Fault (ParseTree R)
  | tree found => .ok found
  | other => other.unfitting member

/-- The semantic graph that a phase needs. -/
def asSemantics (member : String) : Artifact R → Except Fault (SemanticGraph R)
  | semantics found => .ok found
  | other => other.unfitting member

/-- The knowledge graph that a phase needs. -/
def asKnowledge (member : String) : Artifact R → Except Fault (KnowledgeGraph R)
  | knowledge found => .ok found
  | other => other.unfitting member

/-- The reduced graph that a phase needs. -/
def asReduction (member : String) : Artifact R → Except Fault (ReducedGraph R)
  | reduction found => .ok found
  | other => other.unfitting member

/-- The plain-text view of a result. -/
def view : Artifact R → String
  | tokens found => Token.view found
  | tree found => found.view
  | semantics found => found.view
  | knowledge found => found.view
  | reduction found => found.view
  | rendered output => output.text
  | text content => content

end Artifact

/-- A whole number of milliseconds between two times in seconds. -/
def milliseconds (seconds : R) : Except Fault Int :=
  match Quantity.wholePart? (seconds * (1000.0 : R)) with
  | some whole => .ok whole
  | none =>
      match Quantity.nonFinite? (seconds * (1000.0 : R)) with
      | some (.infinite _) => .error .infiniteTime
      | _ => .error .undefinedTime

namespace Surroundings

/-- The milliseconds from the beginning to the writing. A beginning at zero is taken for no
beginning. -/
def elapsed (surroundings : Surroundings R) : Except Fault Int :=
  match surroundings.started with
  | none => .ok 0
  | some started =>
      if Quantity.isZero started then .ok 0 else milliseconds (surroundings.writing - started)

def entries (surroundings : Surroundings R) (words : List String) :
    Except Fault (List (Option (Entry R))) :=
  match surroundings.resolver with
  | some resolver => resolver.resolve words
  | none => .ok (words.map Entry.ofFunctionWord?)

end Surroundings

abbrev StandardPhase (R : Type) := Phase (Artifact R) (Surroundings R)

namespace StandardPhase

/-- The result of a phase among the inputs of another one. -/
def input (inputs : List (String × Artifact R)) (id : String) : Except Fault (Artifact R) :=
  match inputs.lookup id with
  | some artifact => .ok artifact
  | none => .error (.missingInput id)

/-- Looks the words of the text up and tags them. -/
def lexical : StandardPhase R where
  id := "lexical"
  name := "Lexical Analysis"
  extension := ".lex"
  process request _ surroundings := do
    let words := Text.words request.text
    let entries ← surroundings.entries words
    let tokens := Tagging.tokens words entries
    return .produced (.tokens tokens) (Token.summary tokens)

/-- Parses the tokens. -/
def parsing : StandardPhase R where
  id := "syntax"
  name := "Syntax Analysis"
  dependsOn := ["lexical"]
  extension := ".syn"
  process _ inputs _ := do
    let tokens ← (← input inputs "lexical").asTokens "lowercase"
    let tree := ParseTree.ofTokens tokens
    return .produced (.tree tree) tree.summary

/-- Reads the parse tree as a semantic graph. -/
def semantic : StandardPhase R where
  id := "semantic"
  name := "Semantic Analysis"
  dependsOn := ["lexical", "syntax"]
  extension := ".sem"
  process _ inputs surroundings := do
    let tree ← (← input inputs "syntax").asTree "intent"
    let tokens ← (← input inputs "lexical").asTokens "has_entry"
    let graph := SemanticGraph.ofTree tree tokens surroundings.memory
    return .produced (.semantics graph) graph.summary

/-- Turns the semantic graph into a knowledge graph. -/
def knowledge : StandardPhase R where
  id := "ir"
  name := "IR Generation"
  dependsOn := ["semantic"]
  extension := ".ir"
  process _ inputs _ := do
    let semantics ← (← input inputs "semantic").asSemantics "intent"
    let graph := KnowledgeGraph.ofSemanticGraph semantics
    return .produced (.knowledge graph) graph.summary

/-- Reduces the knowledge graph. -/
def reduction : StandardPhase R where
  id := "optimize"
  name := "Optimization"
  dependsOn := ["ir"]
  extension := ".opt"
  process _ inputs _ := do
    let knowledge ← (← input inputs "ir").asKnowledge "nodes"
    let graph ← knowledge.reduce
    return .produced (.reduction graph) graph.summary

/-- Sums an output up in one line. -/
def outputSummary (output : Rendered R) : String :=
  let size : R := Quantity.ofCount output.text.length / (1024.0 : R)
  "Generated " ++ output.format.title ++ " output | Size: " ++ Quantity.fixedText 2 size ++ "KB"

/-- Writes the document and renders it. -/
def output : StandardPhase R where
  id := "output"
  name := "Output Generation"
  dependsOn := ["lexical", "semantic", "optimize"]
  extension := ".out"
  process request inputs surroundings := do
    let format := Format.ofRequest request.format
    let elapsed ← surroundings.elapsed
    let graph ← (← input inputs "semantic").asSemantics "overall_confidence"
    let tokens ← (← input inputs "lexical").asTokens "to_summary"
    let reduced ← (← input inputs "optimize").asReduction "to_dict"
    let report : Report R := {
      text := request.text
      tokens
      graph
      reduced
      memory := surroundings.memory
      provenance := {
        timestamp := surroundings.timestamp
        language := request.language
        format := format.name
        dictionary := surroundings.dictionary
        elapsedMilliseconds := elapsed } }
    let rendered : Rendered R := {
      format
      document := report.document
      text := report.document.render format }
    return .produced (.rendered rendered) (outputSummary rendered)

/-- The standard phases, in the order in which they are registered. -/
def all : Registry (Artifact R) (Surroundings R) :=
  [lexical, parsing, semantic, knowledge, reduction, output]

/-- The ids of the standard phases, in the order in which they run. -/
def pipeline : List String :=
  ["lexical", "syntax", "semantic", "ir", "optimize", "output"]

end StandardPhase

end SentenceGraph
