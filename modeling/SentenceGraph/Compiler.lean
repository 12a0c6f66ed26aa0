import SentenceGraph.Config
import SentenceGraph.Phase.Standard
import SentenceGraph.Session

/-!
# Compiling sentences

A compilation runs the pipeline on one sentence in a session. If it succeeds, the session remembers
the subject and the action of the sentence; if it fails, an entry for the failure closes the phases.
In both cases the session counts it.
-/

namespace SentenceGraph

/-- The readings of the clocks that a compilation takes, all in seconds. -/
structure Clock (R : Type) where
  started : R
  writing : R
  finished : R
  /-- The time of day, for the memory. -/
  now : R
  /-- The date of the document. -/
  timestamp : String

/-- The outcome of a compilation. -/
structure Compilation (R : Type) where
  success : Bool
  format : Format
  output : Option (Rendered R) := none
  phases : List PhaseStatus := []
  results : List (String × PhaseResult (Artifact R)) := []
  error : Option String := none
  duration : R

/-- A compiler: its settings, the resolver of its words and its phases. -/
structure Compiler (R : Type) where
  config : Config R
  service : Service R
  registry : Registry (Artifact R) (Surroundings R)

/-- Everything that a call of the compiler changes or answers. The session is changed even where a
fault takes the place of the answer. -/
structure Call (R : Type) where
  session : Session R
  events : List PhaseStatus := []
  answer : Except Fault (Compilation R)

variable {R : Type} [Quantity R]

namespace Compilation

omit [Quantity R] in
def toMembers (compilation : Compilation R) : List (String × Value R) :=
  [("success", .bool compilation.success), ("format", .text compilation.format.name),
    ("output", .ofText? (compilation.output.map Rendered.text)),
    ("phases", .list (compilation.phases.map PhaseStatus.toValue)),
    ("error", .ofText? compilation.error), ("duration_ms", .real compilation.duration)]

end Compilation

/-- The entry that closes the phases of a failed compilation. -/
def PhaseStatus.closing (message : String) : PhaseStatus where
  position := none
  id := "error"
  name := "Compilation Error"
  status := .failed
  details := "Error: " ++ message ++ ". Please try a different input."

namespace Compiler

/-- The resolver of the words of a compiler. -/
def resolver (compiler : Compiler R) : Resolver R where
  address := compiler.config.dictionaryAddress
  offline := compiler.config.offline
  service := compiler.service

/-- A session without history, of the configured capacity. -/
def newSession (compiler : Compiler R) : Except Fault (Session R) := do
  return Session.fresh (← Capacity.ofInt compiler.config.memorySize)

/-- What the phases of a compilation share. -/
def surroundings (compiler : Compiler R) (session : Session R) (clock : Clock R) :
    Surroundings R where
  resolver := some compiler.resolver
  dictionary := compiler.config.dictionaryLabel
  memory := session.memory
  started := some clock.started
  writing := clock.writing
  timestamp := clock.timestamp

/-- The run of the pipeline and the failure that it ends in, if any. A failure to plan leaves an
empty run. -/
def runPipeline (compiler : Compiler R) (request : Request) (session : Session R) (clock : Clock R) :
    Run (Artifact R) × Option String :=
  match
    compiler.registry.run request (compiler.surroundings session clock) StandardPhase.pipeline with
  | .ok run => (run, run.failure?.map PhaseResult.message)
  | .error fault => ({}, some fault.message)

/-- How a compilation ends that failed. -/
def finishFailed (request : Request) (session : Session R) (run : Run (Artifact R))
    (failure : String) (duration : R) : Call R :=
  let closing := PhaseStatus.closing (Text.dropBeginning failure "error: ")
  let events := run.events ++ [closing]
  match session.record duration false with
  | .error fault => { session, events, answer := .error fault }
  | .ok counted =>
      { session := counted
        events
        answer := .ok {
          success := false
          format := .ofRequest request.format
          phases := run.phases ++ [closing]
          results := run.results
          error := some failure
          duration } }

/-- The result of a phase of a run in which all phases succeeded. -/
def produced (run : Run (Artifact R)) (id : String) : Except Fault (Artifact R) :=
  match (run.result? id).bind PhaseResult.data with
  | some artifact => .ok artifact
  | none => .error (.missingInput id)

/-- The output of a run; a text has no rendering. -/
def asRendered : Artifact R → Except Fault (Rendered R)
  | .rendered output => .ok output
  | _ => .error .wrongShape

/-- How a compilation ends in which every phase succeeded: the sentence is remembered, then the
compilation is counted, then the output is taken. -/
def finishComplete (request : Request) (session : Session R) (run : Run (Artifact R))
    (now duration : R) : Call R :=
  let events := run.events
  let found : Except Fault (SemanticGraph R × Artifact R × ContextEntry R) := do
    let semantics ← produced run "semantic"
    let output ← produced run "output"
    let graph ← semantics.asSemantics "main_subject"
    return (graph, output, graph.contextEntry (← milliseconds now))
  match found with
  | .error fault => { session, events, answer := .error fault }
  | .ok (graph, output, entry) =>
      let remembered := session.remember entry
      match remembered.record duration (Report.isConfident graph) with
      | .error fault => { session := remembered, events, answer := .error fault }
      | .ok counted =>
          { session := counted
            events
            answer := do
              let rendered ← asRendered output
              return {
                success := true
                format := .ofRequest request.format
                output := some rendered
                phases := run.phases
                results := run.results
                duration } }

def compile (compiler : Compiler R) (request : Request) (session : Session R) (clock : Clock R) :
    Call R :=
  let (run, failure?) := compiler.runPipeline request session clock
  let duration := (clock.finished - clock.started) * (1000.0 : R)
  match failure? with
  | some failure => finishFailed request session run failure duration
  | none => finishComplete request session run clock.now duration

/-- Compiles a sentence in a session of its own. -/
def compileAlone (compiler : Compiler R) (request : Request) (clock : Clock R) :
    Except Fault (Call R) := do
  return compiler.compile request (← compiler.newSession) clock

end Compiler

end SentenceGraph
