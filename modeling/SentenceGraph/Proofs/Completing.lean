import SentenceGraph.Proofs.Escaping
import SentenceGraph.Proofs.Histories
import SentenceGraph.Proofs.LookingUp
import SentenceGraph.Proofs.Reducing

/-!
# Which compilations succeed

With the standard phases, a compilation succeeds unless a word cannot be looked up. What a
dictionary puts into a token is carried along and never computed with, and the confidences by which
nodes are merged are numbers of this library's own. So the whole course of a run is known from the
tokens of the text: they are read (`Reading`), and only the last phase asks for more than that,
namely for the time that has passed.
-/

namespace SentenceGraph

open Fallible

section Through

variable {Data Context : Type}

/-- The run of scheduled phases of which the first ones ended in some results. -/
def Run.through : List PhaseStatus → List (PhaseResult Data) → Run Data
  | status :: scheduled, result :: results =>
      .after
        { status with
          status := if result.success then .complete else .failed
          details := result.message }
        result (through scheduled results)
  | scheduled, _ => { phases := scheduled }

namespace Registry

variable {registry : Registry Data Context} {request : Request} {context : Context}
  {data given : List (String × Data)} {status : PhaseStatus} {rest : List PhaseStatus}

theorem runFrom_through (phase : Phase Data Context) {produced : Data} {summary : String}
    {results : List (PhaseResult Data)} (found : registry.find? status.id = some phase)
    (supplied : inputs data phase.dependsOn = .ok given)
    (ended : phase.process request given context = .ok (.produced produced summary))
    (others : registry.runFrom request context ((status.id, produced) :: data) rest =
      .ok (.through rest results)) :
    registry.runFrom request context data (status :: rest) =
      .ok (.through (status :: rest) (⟨true, some produced, summary⟩ :: results)) := by
  rw [runFrom_produced found supplied ended others]
  rfl

theorem runFrom_through_failed (phase : Phase Data Context) {result : PhaseResult Data}
    (found : registry.find? status.id = some phase)
    (supplied : inputs data phase.dependsOn = .ok given)
    (ended : .ofOutcome (phase.process request given context) = result)
    (failure : result.success = false) :
    registry.runFrom request context data (status :: rest) =
      .ok (.through (status :: rest) [result]) := by
  subst ended
  rw [runFrom_failed found supplied failure, Run.through, failure]
  cases rest with
  | nil => rfl
  | cons next rest => rfl

theorem runFrom_through_last (phase : Phase Data Context)
    (found : registry.find? status.id = some phase)
    (supplied : inputs data phase.dependsOn = .ok given) :
    registry.runFrom request context data [status] =
      .ok (.through [status] [.ofOutcome (phase.process request given context)]) := by
  cases success : (PhaseResult.ofOutcome (phase.process request given context)).success with
  | false => exact runFrom_through_failed phase found supplied rfl success
  | true =>
      rcases ofOutcome_success success with ⟨produced, summary, ended⟩
      rw [ended]
      exact runFrom_through phase found supplied ended rfl

end Registry

end Through

variable {R : Type} [Quantity R]

/-- What the phases before the last one make of tokens, in the light of a memory. -/
structure Reading (memory : ContextMemory R) where
  tokens : List (Token R)
  reduced : ReducedGraph R
  isReduced :
    (KnowledgeGraph.ofSemanticGraph (.ofTree (.ofTokens tokens) tokens memory)).reduce = .ok reduced

namespace Reading

variable {memory : ContextMemory R}

def tree (reading : Reading memory) : ParseTree R :=
  .ofTokens reading.tokens

def graph (reading : Reading memory) : SemanticGraph R :=
  .ofTree reading.tree reading.tokens memory

def knowledge (reading : Reading memory) : KnowledgeGraph R :=
  .ofSemanticGraph reading.graph

theorem reduce_knowledge (reading : Reading memory) :
    reading.knowledge.reduce = .ok reading.reduced :=
  reading.isReduced

theorem eq_of_tokens {reading other : Reading memory} (same : reading.tokens = other.tokens) :
    reading = other := by
  rcases reading with ⟨tokens, reduced, isReduced⟩
  rcases other with ⟨_, otherReduced, isOtherReduced⟩
  cases same
  cases isReduced.symm.trans isOtherReduced
  rfl

def results (reading : Reading memory) : List (PhaseResult (Artifact R)) :=
  [⟨true, some (.tokens reading.tokens), Token.summary reading.tokens⟩,
    ⟨true, some (.tree reading.tree), reading.tree.summary⟩,
    ⟨true, some (.semantics reading.graph), reading.graph.summary⟩,
    ⟨true, some (.knowledge reading.knowledge), reading.knowledge.summary⟩,
    ⟨true, some (.reduction reading.reduced), reading.reduced.summary⟩]

/-- What the document is made of, once it is known how much time has passed. -/
def report (reading : Reading memory) (request : Request) (surroundings : Surroundings R)
    (elapsed : Int) : Report R where
  text := request.text
  tokens := reading.tokens
  graph := reading.graph
  reduced := reading.reduced
  memory
  provenance := {
    timestamp := surroundings.timestamp
    language := request.language
    format := (Format.ofRequest request.format).name
    dictionary := surroundings.dictionary
    elapsedMilliseconds := elapsed }

def rendered (reading : Reading memory) (request : Request) (surroundings : Surroundings R)
    (elapsed : Int) : Rendered R where
  format := .ofRequest request.format
  document := (reading.report request surroundings elapsed).document
  text := (reading.report request surroundings elapsed).document.render (.ofRequest request.format)

/-- The results of all phases, by their ids. -/
def resultsById (reading : Reading memory) (rendered : Rendered R) :
    List (String × PhaseResult (Artifact R)) :=
  StandardPhase.pipeline.zip
    (reading.results ++ [⟨true, some (.rendered rendered), StandardPhase.outputSummary rendered⟩])

def outcome (reading : Reading memory) (request : Request) (surroundings : Surroundings R) :
    Except Fault (Outcome (Artifact R)) := do
  let rendered := reading.rendered request surroundings (← surroundings.elapsed)
  return .produced (.rendered rendered) (StandardPhase.outputSummary rendered)

/-- Whatever tokens hold, they can be read: the nodes of their graph have confidences that can be
compared. -/
theorem exists_tokens_eq (tokens : List (Token R)) (memory : ContextMemory R) :
    ∃ reading : Reading memory, reading.tokens = tokens := by
  have measured : ∀ node ∈ KnowledgeGraph.nodesOf (.ofTree (.ofTokens tokens) tokens memory),
      node.IsMeasured := by
    intro node node_mem
    exact KnowledgeGraph.isMeasured_of_mem_nodesOf node_mem
  rcases KnowledgeGraph.Merge.exists_ofNodes measured with ⟨merge, merged⟩
  have merges : KnowledgeGraph.Merge.ofNodes
      (KnowledgeGraph.ofSemanticGraph (.ofTree (.ofTokens tokens) tokens memory)).nodes =
        .ok merge := merged
  rcases KnowledgeGraph.exists_reduce merges with ⟨reduced, isReduced, _⟩
  exact ⟨⟨tokens, reduced, isReduced⟩, rfl⟩

section Outcome

variable {reading : Reading memory} {request : Request} {surroundings : Surroundings R}

theorem ofOutcome_of_untimed {fault : Fault} (untimed : surroundings.elapsed = .error fault) :
    PhaseResult.ofOutcome (reading.outcome request surroundings) =
      ⟨false, none, "error: " ++ fault.message⟩ := by
  simp only [outcome, untimed, error_bind]
  rfl

theorem ofOutcome_of_timed {elapsed : Int} (timed : surroundings.elapsed = .ok elapsed) :
    PhaseResult.ofOutcome (reading.outcome request surroundings) =
      ⟨true, some (.rendered (reading.rendered request surroundings elapsed)),
        StandardPhase.outputSummary (reading.rendered request surroundings elapsed)⟩ := by
  simp only [outcome, timed, ok_bind]
  rfl

end Outcome

end Reading

namespace StandardPhase

def scheduled : List PhaseStatus :=
  [{ position := some 1, id := "lexical", name := "Lexical Analysis" },
    { position := some 2, id := "syntax", name := "Syntax Analysis" },
    { position := some 3, id := "semantic", name := "Semantic Analysis" },
    { position := some 4, id := "ir", name := "IR Generation" },
    { position := some 5, id := "optimize", name := "Optimization" },
    { position := some 6, id := "output", name := "Output Generation" }]

theorem plan_all : (all : Registry (Artifact R) (Surroundings R)).plan pipeline = .ok pipeline := by
  cbv

theorem run_all (request : Request) (surroundings : Surroundings R) :
    all.run request surroundings pipeline = all.runFrom request surroundings [] scheduled := by
  rw [Registry.run, Registry.schedule, plan_all]
  rfl

variable {request : Request} (surroundings : Surroundings R) {fault : Fault}
  {entries : List (Option (Entry R))}

theorem run_of_unresolved
    (unresolved : surroundings.entries (Text.words request.text) = .error fault) :
    all.run request surroundings pipeline =
      .ok (.through scheduled [⟨false, none, "error: " ++ fault.message⟩]) := by
  have ended : lexical.process request [] surroundings = .error fault := by
    simp only [lexical, unresolved, error_bind]
  have failed : PhaseResult.ofOutcome (lexical.process request [] surroundings) =
      ⟨false, none, "error: " ++ fault.message⟩ := by
    rw [ended]
    rfl
  rw [run_all]
  exact Registry.runFrom_through_failed lexical rfl rfl failed rfl

/-- Once the words are looked up, each phase gets what it needs from those before it. -/
theorem run_of_resolved {memory : ContextMemory R} (reading : Reading memory)
    (remembered : surroundings.memory = memory)
    (resolved : surroundings.entries (Text.words request.text) = .ok entries)
    (read : Tagging.tokens (Text.words request.text) entries = reading.tokens) :
    all.run request surroundings pipeline =
      .ok (.through scheduled
        (reading.results ++ [.ofOutcome (reading.outcome request surroundings)])) := by
  subst remembered
  have lexicalEnded : lexical.process request [] surroundings =
      .ok (.produced (.tokens reading.tokens) (Token.summary reading.tokens)) := by
    simp only [lexical, resolved, ok_bind, read]
    rfl
  have reductionEnded :
      reduction.process request [("ir", .knowledge reading.knowledge)] surroundings =
        .ok (.produced (.reduction reading.reduced) reading.reduced.summary) := by
    change (reading.knowledge.reduce >>= _) = _
    rw [reading.reduce_knowledge]
    rfl
  have supplied :
      Registry.inputs
          [("optimize", Artifact.reduction reading.reduced), ("ir", .knowledge reading.knowledge),
            ("semantic", .semantics reading.graph), ("syntax", .tree reading.tree),
            ("lexical", .tokens reading.tokens)]
          (output : StandardPhase R).dependsOn =
        .ok [("lexical", .tokens reading.tokens), ("semantic", .semantics reading.graph),
          ("optimize", .reduction reading.reduced)] := rfl
  rw [run_all]
  apply Registry.runFrom_through lexical rfl rfl lexicalEnded
  apply Registry.runFrom_through parsing rfl rfl rfl
  apply Registry.runFrom_through semantic rfl rfl rfl
  apply Registry.runFrom_through knowledge rfl rfl rfl
  apply Registry.runFrom_through reduction rfl rfl reductionEnded
  exact Registry.runFrom_through_last output rfl supplied

end StandardPhase

theorem Tagging.getElem?_tokens {words : List String} {entries : List (Option (Entry R))}
    {index : Nat} {word : String} {entry : Option (Entry R)} (hasWord : words[index]? = some word)
    (hasEntry : entries[index]? = some entry) :
    (tokens words entries)[index]? = some (token index word entry) := by
  have paired : (words.zip entries)[index]? = some (word, entry) :=
    List.getElem?_zip_eq_some.mpr ⟨hasWord, hasEntry⟩
  rw [tokens, List.getElem?_map, List.getElem?_zipIdx, paired]
  simp

theorem Session.exists_record_remember {session : Session R} {count : Nat}
    {meanTime successRate : R}
    (counted : session.analytics = .counted count meanTime successRate)
    (counts : Quantity.Counts R (count + 1)) (entry : ContextEntry R) (duration : R)
    (success : Bool) : ∃ next, (session.remember entry).record duration success = .ok next := by
  have remembered : (session.remember entry).analytics = .counted count meanTime successRate :=
    counted
  rcases exists_record remembered counts duration success with ⟨_, _, recorded⟩
  exact ⟨_, recorded⟩

namespace Compiler

/-- The tokens that a compiler finds in a text. -/
def tokens (compiler : Compiler R) (text : String) : Except Fault (List (Token R)) := do
  return Tagging.tokens (Text.words text) (← compiler.resolver.resolve (Text.words text))

/-- The runs of the standard phases, each with the failure that it ends in. -/
inductive Runs (compiler : Compiler R) (request : Request) (session : Session R)
    (clock : Clock R) : Run (Artifact R) × Option String → Prop where
  | unresolved {fault : Fault} (unresolved : compiler.tokens request.text = .error fault) :
      Runs compiler request session clock
        (.through StandardPhase.scheduled [⟨false, none, "error: " ++ fault.message⟩],
          some ("error: " ++ fault.message))
  | untimed {reading : Reading session.memory} {fault : Fault}
      (read : compiler.tokens request.text = .ok reading.tokens)
      (untimed : (compiler.surroundings session clock).elapsed = .error fault) :
      Runs compiler request session clock
        (.through StandardPhase.scheduled
            (reading.results ++ [⟨false, none, "error: " ++ fault.message⟩]),
          some ("error: " ++ fault.message))
  | completed {reading : Reading session.memory} {elapsed : Int} {rendered : Rendered R}
      (read : compiler.tokens request.text = .ok reading.tokens)
      (timed : (compiler.surroundings session clock).elapsed = .ok elapsed)
      (output : reading.rendered request (compiler.surroundings session clock) elapsed = rendered) :
      Runs compiler request session clock
        (.through StandardPhase.scheduled
            (reading.results ++
              [⟨true, some (.rendered rendered), StandardPhase.outputSummary rendered⟩]),
          none)

variable {compiler : Compiler R} {request : Request} {session : Session R} {clock : Clock R}

theorem runs_runPipeline (standard : compiler.registry = StandardPhase.all) (request : Request)
    (session : Session R) (clock : Clock R) :
    compiler.Runs request session clock (compiler.runPipeline request session clock) := by
  cases resolved : compiler.resolver.resolve (Text.words request.text) with
  | error fault =>
      have ran := StandardPhase.run_of_unresolved (compiler.surroundings session clock) resolved
      rw [← standard] at ran
      rw [runPipeline_of_run ran]
      refine .unresolved ?_
      rw [tokens, resolved, error_bind]
  | ok entries =>
      rcases Reading.exists_tokens_eq (Tagging.tokens (Text.words request.text) entries)
        session.memory with ⟨reading, read⟩
      have ran := StandardPhase.run_of_resolved (compiler.surroundings session clock) reading
        rfl resolved read.symm
      have found : compiler.tokens request.text = .ok reading.tokens := by
        rw [tokens, resolved, read]
        rfl
      rw [← standard] at ran
      rw [runPipeline_of_run ran]
      -- Only the last phase asks for the time.
      cases timed : (compiler.surroundings session clock).elapsed with
      | error fault =>
          rw [Reading.ofOutcome_of_untimed timed]
          exact .untimed found timed
      | ok elapsed =>
          rw [Reading.ofOutcome_of_timed timed]
          exact .completed found timed rfl

section Ends

variable {run : Run (Artifact R)} {graph : SemanticGraph R} {artifact : Artifact R}
  {compilation : Compilation R} {message? : Option String} {fault : Fault} {time : Int}
  {semanticSummary outputSummary : String}

/-- Where the time of day cannot be told, nothing is remembered. -/
theorem compile_of_undated (ran : compiler.runPipeline request session clock = (run, none))
    (semantics : run.result? "semantic" = some ⟨true, some (.semantics graph), semanticSummary⟩)
    (output : run.result? "output" = some ⟨true, some artifact, outputSummary⟩)
    (undated : milliseconds clock.now = .error fault) :
    compiler.compile request session clock =
      { session, events := run.events, answer := .error fault } := by
  rw [compile, ran]
  simp only [finishComplete, produced, semantics, output, Option.bind_some, ok_bind,
    Artifact.asSemantics, undated, error_bind]

theorem compile_of_unrecorded (ran : compiler.runPipeline request session clock = (run, none))
    (semantics : run.result? "semantic" = some ⟨true, some (.semantics graph), semanticSummary⟩)
    (output : run.result? "output" = some ⟨true, some artifact, outputSummary⟩)
    (dated : milliseconds clock.now = .ok time)
    (unrecorded : (session.remember (graph.contextEntry time)).record (duration clock)
      (Report.isConfident graph) = .error fault) :
    compiler.compile request session clock = {
      session := session.remember (graph.contextEntry time)
      events := run.events
      answer := .error fault } := by
  rw [duration] at unrecorded
  rw [compile, ran]
  simp only [finishComplete, produced, semantics, output, Option.bind_some, ok_bind, pure_eq_ok,
    Artifact.asSemantics, dated, unrecorded]

/-- Where a session can be counted, a call that does not answer leaves it as it was. -/
theorem session_of_unanswered {count : Nat} {meanTime successRate : R}
    (standard : compiler.registry = StandardPhase.all)
    (counted : session.analytics = .counted count meanTime successRate)
    (counts : Quantity.Counts R (count + 1))
    (unanswered : (compiler.compile request session clock).answer = .error fault) :
    (compiler.compile request session clock).session = session := by
  rcases Session.exists_record counted counts (duration clock) false with ⟨_, _, afterFailure⟩
  have runs := runs_runPipeline standard request session clock
  generalize ran : compiler.runPipeline request session clock = piped at runs
  cases runs with
  | unresolved | untimed =>
      rw [compile_of_failure ran afterFailure] at unanswered
      contradiction
  | @completed reading =>
      cases dated : milliseconds clock.now with
      | error fault => rw [compile_of_undated ran rfl rfl dated]
      | ok time =>
          rcases Session.exists_record_remember counted counts (reading.graph.contextEntry time)
            (duration clock) (Report.isConfident reading.graph) with ⟨_, recorded⟩
          rw [compile_of_success ran rfl rfl dated recorded] at unanswered
          contradiction

theorem eq_of_answer (ran : compiler.runPipeline request session clock = (run, message?))
    (answered : (compiler.compile request session clock).answer = .ok compilation) :
    compilation.results = run.results ∧ compilation.success = message?.isNone ∧
      (compilation.success = false → compilation.output = none) := by
  cases message? with
  | some message =>
      simp only [compile, ran, finishFailed] at answered
      split at answered
      · contradiction
      · cases answered
        exact ⟨rfl, rfl, fun _ => rfl⟩
  | none =>
      simp only [compile, ran, finishComplete] at answered
      split at answered
      · contradiction
      · split at answered
        · contradiction
        · rcases bind_eq_ok_iff.mp answered with ⟨rendered, _, same⟩
          cases same
          exact ⟨rfl, rfl, by simp⟩

/-- A successful answer holds all results of a reading, which the session counts and remembers. -/
theorem succeeded_of_answer (standard : compiler.registry = StandardPhase.all)
    (answered : (compiler.compile request session clock).answer = .ok compilation)
    (success : compilation.success = true) :
    ∃ (reading : Reading session.memory) (rendered : Rendered R) (elapsed : Int),
      compiler.tokens request.text = .ok reading.tokens ∧
      reading.rendered request (compiler.surroundings session clock) elapsed = rendered ∧
      compilation.results = reading.resultsById rendered ∧
      compilation.output = some rendered ∧
      (compiler.compile request session clock).Succeeded session clock compilation
        reading.graph := by
  have runs := runs_runPipeline standard request session clock
  cases ran : compiler.runPipeline request session clock with
  | mk run message? =>
      have ends := (eq_of_answer ran answered).2.1
      rw [ran] at runs
      cases runs with
      | unresolved | untimed => simp [success] at ends
      | @completed reading elapsed rendered read timed output =>
          cases dated : milliseconds clock.now with
          | error fault =>
              rw [compile_of_undated ran rfl rfl dated] at answered
              contradiction
          | ok time =>
              cases recorded : (session.remember (reading.graph.contextEntry time)).record
                  (duration clock) (Report.isConfident reading.graph) with
              | error fault =>
                  rw [compile_of_unrecorded ran rfl rfl dated recorded] at answered
                  contradiction
              | ok next =>
                  rcases bind_eq_ok_iff.mp recorded with ⟨totals, counted, same⟩
                  cases same
                  rw [compile_of_success ran rfl rfl dated recorded] at answered ⊢
                  cases answered
                  have document : rendered.document = Report.document (reading.report request
                      (compiler.surroundings session clock) elapsed) := by
                    rw [← output, Reading.rendered]
                  refine ⟨reading, rendered, elapsed, read, output, rfl, rfl, ?_⟩
                  exact ⟨rfl, rfl, rfl, counted, rfl, ⟨_, _, rfl⟩,
                    ⟨_, rendered, rfl, document, rfl⟩, ⟨time, dated, rfl⟩⟩

end Ends

/-- Words can be looked up if no fault of theirs escapes; otherwise one of them is the failure. -/
theorem exists_tokens_eq_ok_iff (compiler : Compiler R) (text : String) :
    (∃ tokens, compiler.tokens text = .ok tokens) ↔
      ∀ word ∈ Text.words text, ∀ fault, ¬compiler.resolver.Escapes word fault := by
  simp only [← Resolver.exists_lookup_eq_ok_iff, ← exists_mapM_eq_ok_iff, tokens, bind_eq_ok_iff]
  constructor
  · rintro ⟨_, entries, resolved, _⟩
    exact ⟨entries, resolved⟩
  · rintro ⟨entries, resolved⟩
    exact ⟨_, entries, resolved, rfl⟩

theorem exists_escapes_of_tokens {text : String} {fault : Fault}
    (unresolved : compiler.tokens text = .error fault) :
    ∃ word ∈ Text.words text, compiler.resolver.Escapes word fault := by
  rcases bind_eq_error_iff.mp unresolved with fails | ⟨_, _, impossible⟩
  · rcases mapM_eq_error_iff.mp fails with ⟨before, word, after, split, _, here⟩
    refine ⟨word, by simp [split], ?_⟩
    rcases Resolver.lookup_cases compiler.resolver word with ⟨_, found, _⟩ | ⟨other, same, escapes⟩
    · cases here.symm.trans found
    · cases here.symm.trans same
      exact escapes
  · contradiction

section Places

variable {text : String} {tokens : List (Token R)} {index : Nat}

theorem exists_token_of_word (read : compiler.tokens text = .ok tokens) {word : String}
    (here : (Text.words text)[index]? = some word) :
    ∃ entry, compiler.resolver.lookup word = .ok entry ∧
      tokens[index]? = some (Tagging.token index word entry) := by
  rcases bind_eq_ok_iff.mp read with ⟨entries, resolved, same⟩
  rcases List.forall₂_iff_get.mp (mapM_eq_ok_iff.mp resolved) with ⟨lengths, found⟩
  cases same
  rcases List.getElem?_eq_some_iff.mp here with ⟨inWords, rfl⟩
  have inEntries : index < entries.length := lengths ▸ inWords
  refine ⟨entries[index], found index inWords inEntries, ?_⟩
  apply Tagging.getElem?_tokens here
  exact List.getElem?_eq_getElem inEntries

theorem exists_word_of_token (read : compiler.tokens text = .ok tokens) {token : Token R}
    (here : tokens[index]? = some token) :
    ∃ word entry, (Text.words text)[index]? = some word ∧
      compiler.resolver.lookup word = .ok entry ∧ Tagging.token index word entry = token := by
  rcases bind_eq_ok_iff.mp read with ⟨entries, _, same⟩
  have inWords : index < (Text.words text).length := by
    rcases List.getElem?_eq_some_iff.mp here with ⟨inTokens, _⟩
    rw [← Except.ok.inj same] at inTokens
    simp only [Tagging.tokens, List.length_map, List.length_zipIdx, List.length_zip] at inTokens
    omega
  have hasWord := List.getElem?_eq_getElem inWords
  rcases exists_token_of_word read hasWord with ⟨entry, found, there⟩
  rw [here] at there
  exact ⟨_, entry, hasWord, found, (Option.some.inj there).symm⟩
end Places

theorem not_escapes_of_offline (offline : compiler.config.offline = true) (word : String)
    (fault : Fault) : ¬compiler.resolver.Escapes word fault := by
  have resolverOffline : compiler.resolver.offline = true := offline
  intro escapes
  cases escapes with
  | crashed online => simp [resolverOffline] at online
  | strays replied => simp [Resolver.payload?, resolverOffline] at replied

section Statuses

variable (request : Request) (clock : Clock R) {count : Nat} {meanTime successRate : R}
  (standard : compiler.registry = StandardPhase.all)
  (counted : session.analytics = .counted count meanTime successRate)
  (counts : Quantity.Counts R (count + 1))

include standard counted counts

theorem exists_failure {fault : Fault}
    (unresolved : compiler.tokens request.text = .error fault) :
    ∃ compilation : Compilation R,
      (compiler.compile request session clock).answer = .ok compilation ∧
      compilation.success = false ∧
      compilation.phases.map (fun phase => (phase.id, phase.status)) =
        [("lexical", .failed), ("syntax", .pending), ("semantic", .pending), ("ir", .pending),
          ("optimize", .pending), ("output", .pending), ("error", .failed)] ∧
      compilation.error = some ("error: " ++ fault.message) := by
  rcases Session.exists_record counted counts (duration clock) false with ⟨_, _, recorded⟩
  have runs := runs_runPipeline standard request session clock
  generalize ran : compiler.runPipeline request session clock = piped at runs
  cases runs with
  | unresolved sameUnresolved =>
      cases sameUnresolved.symm.trans unresolved
      rw [compile_of_failure ran recorded]
      exact ⟨_, rfl, rfl, rfl, rfl⟩
  | untimed read | completed read => cases read.symm.trans unresolved

theorem exists_success {tokens : List (Token R)} {elapsed time : Int}
    (dated : milliseconds clock.now = .ok time)
    (timed : (compiler.surroundings session clock).elapsed = .ok elapsed)
    (read : compiler.tokens request.text = .ok tokens) :
    ∃ compilation : Compilation R,
      (compiler.compile request session clock).answer = .ok compilation ∧
      compilation.success = true ∧
      compilation.phases.map (fun phase => (phase.id, phase.status)) =
        [("lexical", .complete), ("syntax", .complete), ("semantic", .complete),
          ("ir", .complete), ("optimize", .complete), ("output", .complete)] := by
  have runs := runs_runPipeline standard request session clock
  generalize ran : compiler.runPipeline request session clock = piped at runs
  cases runs with
  | unresolved unresolved => cases unresolved.symm.trans read
  | untimed _ untimed => cases untimed.symm.trans timed
  | @completed reading =>
      rcases Session.exists_record_remember counted counts (reading.graph.contextEntry time)
        (duration clock) (Report.isConfident reading.graph) with ⟨_, recorded⟩
      rw [compile_of_success ran rfl rfl dated recorded]
      exact ⟨_, rfl, rfl, rfl⟩

end Statuses

/-- Where the time can be told and the session can be counted, a compilation with the standard
phases succeeds, with every phase complete, exactly if no word has a fault that escapes its lookup.
Such a fault is one of the first phase, and the other phases are not started. Without the service
there is none. -/
theorem compile_succeeds_iff {elapsed time : Int} (request : Request)
    (standard : compiler.registry = StandardPhase.all) (reachable : session.Reachable)
    (counts : ∀ count : Nat, session.analytics.compilations = .int count →
      Quantity.Counts R (count + 1))
    (dated : milliseconds clock.now = .ok time)
    (timed : (compiler.surroundings session clock).elapsed = .ok elapsed) :
    ∃ compilation : Compilation R,
      (compiler.compile request session clock).answer = .ok compilation ∧
      (compilation.success = true ↔
        ∀ word ∈ Text.words request.text, ∀ fault, ¬compiler.resolver.Escapes word fault) ∧
      (compilation.success = true →
        compilation.phases.map (fun phase => (phase.id, phase.status)) =
          [("lexical", .complete), ("syntax", .complete), ("semantic", .complete),
            ("ir", .complete), ("optimize", .complete), ("output", .complete)]) ∧
      (compilation.success = false →
        compilation.phases.map (fun phase => (phase.id, phase.status)) =
            [("lexical", .failed), ("syntax", .pending), ("semantic", .pending), ("ir", .pending),
              ("optimize", .pending), ("output", .pending), ("error", .failed)] ∧
          ∃ word ∈ Text.words request.text, ∃ fault, compiler.resolver.Escapes word fault ∧
            compilation.error = some ("error: " ++ fault.message)) ∧
      (compiler.config.offline = true → compilation.success = true) := by
  rcases reachable.exists_counted with ⟨count, meanTime, successRate, counted⟩
  have inRange : Quantity.Counts R (count + 1) := by
    apply counts
    rw [counted]
    rfl
  have decided := exists_tokens_eq_ok_iff compiler request.text
  cases read : compiler.tokens request.text with
  | error fault =>
      rcases exists_failure request clock standard counted inRange read with
        ⟨compilation, answer, failure, phases, error⟩
      rcases exists_escapes_of_tokens read with ⟨word, word_mem, escapes⟩
      refine ⟨compilation, answer, ?_, by simp [failure], ?_, ?_⟩
      · simp [← decided, read, failure]
      · intro _
        exact ⟨phases, word, word_mem, fault, escapes, error⟩
      · intro offline
        exact absurd escapes (not_escapes_of_offline offline word fault)
  | ok tokens =>
      rcases exists_success request clock standard counted inRange dated timed read with
        ⟨compilation, answer, success, phases⟩
      refine ⟨compilation, answer, ?_, fun _ => phases, by simp [success], fun _ => success⟩
      simp [← decided, read, success]

/-- A dictionary that knows every word, with an entry in which hardly any part is a text. -/
def outlandish : Compiler Float where
  config := .standard
  service := fun _ =>
    .answered 200 (.encoded
      (.list [.object
        [("word", .int 1),
          ("meanings", .list [.object
            [("partOfSpeech", .list []),
              ("definitions", .list [.object [("definition", .bool true)]]),
              ("synonyms", .object [("key", .null)])]])]]))
  registry := StandardPhase.all

theorem compile_succeeds_outlandish :
    (∃ time, milliseconds stopped.now = .ok time) ∧
      ∃ compilation : Compilation Float,
        (outlandish.compile { text := "dogs run" } (.fresh .default) stopped).answer =
          .ok compilation ∧
        compilation.success = true := by
  have made : outlandish.newSession = .ok (.fresh .default) := rfl
  have counts : ∀ count : Nat,
      (Session.fresh .default : Session Float).analytics.compilations = .int count →
        Quantity.Counts Float (count + 1) := by
    intro count same
    have zero : (0 : Int) = count := Value.int.inj same
    rw [Int.natCast_eq_zero.mp zero.symm]
    exact counts_one
  have timed : (outlandish.surroundings (.fresh .default) stopped).elapsed = .ok 0 := rfl
  rcases compile_succeeds_iff { text := "dogs run" } rfl (.fresh made) counts milliseconds_stopped
    timed with ⟨compilation, answer, succeeds, _⟩
  refine ⟨⟨0, milliseconds_stopped⟩, compilation, answer, succeeds.mpr ?_⟩
  intro word _
  apply Resolver.exists_lookup_eq_ok_iff.mp
  exact ⟨_, rfl⟩

end Compiler

end SentenceGraph
