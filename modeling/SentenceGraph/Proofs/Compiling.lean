import SentenceGraph.Compiler
import SentenceGraph.Proofs.Counting
import SentenceGraph.Proofs.Running

/-!
# What compilations do to sessions

With the standard semantic and output phases, and whatever phases otherwise, a compilation in a
session that earlier compilations led to always answers and is counted once. If it fails, the memory
stays as it was and the answer tells of one failure; if it succeeds, every phase is complete and the
memory has one more entry, that of the semantic graph.

After the run, the compiler reaches into the results of two phases outside of any phase. This is
safe because both are requested, so that a complete run has results of theirs, and because a
standard phase only produces data of its own kind.
-/

namespace SentenceGraph

open Fallible

variable {R : Type} [Quantity R]

namespace StandardPhase

variable {request : Request} {inputs : List (String × Artifact R)} {surroundings : Surroundings R}
  {artifact : Artifact R} {summary : String}

/-- The semantic phase reads some parse tree and tokens in the light of the memory. -/
theorem exists_reading_of_produced
    (ended : semantic.process request inputs surroundings = .ok (.produced artifact summary)) :
    ∃ tree tokens, artifact = .semantics (.ofTree tree tokens surroundings.memory) := by
  simp only [semantic, bind_eq_ok_iff] at ended
  rcases ended with ⟨_, _, tree, _, _, _, tokens, _, same⟩
  cases same
  exact ⟨tree, tokens, rfl⟩

/-- The output phase renders a report that shows the memory. -/
theorem exists_report_of_produced
    (ended : output.process request inputs surroundings = .ok (.produced artifact summary)) :
    ∃ (report : Report R) (rendered : Rendered R), artifact = .rendered rendered ∧
      rendered.document = report.document ∧ report.memory = surroundings.memory := by
  simp only [output, bind_eq_ok_iff] at ended
  rcases ended with ⟨_, _, _, _, _, _, _, _, _, _, _, _, _, _, same⟩
  cases same
  exact ⟨_, _, rfl, rfl, rfl⟩

end StandardPhase

namespace Session

variable {session : Session R} {count : Nat} {meanTime successRate duration : R} {success : Bool}

theorem exists_record (counted : session.analytics = .counted count meanTime successRate)
    (counts : Quantity.Counts R (count + 1)) (duration : R) (success : Bool) :
    ∃ nextTime nextRate, session.record duration success =
      .ok { session with analytics := .counted (count + 1) nextTime nextRate } := by
  rcases Analytics.exists_record counts meanTime successRate duration success with
    ⟨nextTime, nextRate, recorded⟩
  refine ⟨nextTime, nextRate, ?_⟩
  rw [record, counted, recorded]
  rfl

theorem exists_counted_of_record {recorded : Session R}
    (counted : session.analytics = .counted count meanTime successRate)
    (succeeds : session.record duration success = .ok recorded) :
    ∃ nextTime nextRate, recorded.analytics = .counted (count + 1) nextTime nextRate := by
  rcases bind_eq_ok_iff.mp succeeds with ⟨analytics, counting, same⟩
  rw [counted] at counting
  cases same
  exact Analytics.eq_counted_of_record counting

end Session

/-- Sessions that compilations lead to, from new sessions on. -/
inductive Session.Reachable : Session R → Prop where
  | fresh {compiler : Compiler R} {session : Session R}
      (made : compiler.newSession = .ok session) : Reachable session
  | compiled {session : Session R} (reachable : Reachable session) (compiler : Compiler R)
      (request : Request) (clock : Clock R) :
      Reachable (compiler.compile request session clock).session

namespace Compiler

variable {compiler : Compiler R} {request : Request} {session : Session R} {clock : Clock R}
  {count : Nat} {meanTime successRate : R}

theorem analytics_of_newSession (made : compiler.newSession = .ok session) :
    session.analytics = .counted 0 0.0 100.0 := by
  rcases bind_eq_ok_iff.mp made with ⟨capacity, _, same⟩
  cases same
  rfl

theorem exists_counted_of_finishFailed {run : Run (Artifact R)} {failure : String} {duration : R}
    (counted : session.analytics = .counted count meanTime successRate) :
    ∃ nextCount nextTime nextRate,
      (finishFailed request session run failure duration).session.analytics =
        .counted nextCount nextTime nextRate := by
  simp only [finishFailed]
  split
  · exact ⟨_, _, _, counted⟩
  · rename_i next recorded
    rcases Session.exists_counted_of_record counted recorded with ⟨nextTime, nextRate, same⟩
    exact ⟨_, _, _, same⟩

theorem exists_counted_of_finishComplete {run : Run (Artifact R)} {now duration : R}
    (counted : session.analytics = .counted count meanTime successRate) :
    ∃ nextCount nextTime nextRate,
      (finishComplete request session run now duration).session.analytics =
        .counted nextCount nextTime nextRate := by
  simp only [finishComplete]
  split
  · exact ⟨_, _, _, counted⟩
  · rename_i graph output entry found
    split
    · exact ⟨_, _, _, counted⟩
    · rename_i next recorded
      have remembered : (session.remember entry).analytics = .counted count meanTime successRate :=
        counted
      rcases Session.exists_counted_of_record remembered recorded with ⟨nextTime, nextRate, same⟩
      exact ⟨_, _, _, same⟩

end Compiler

/-- However compilations end, the totals of a session stay those of a number of compilations. -/
theorem Session.Reachable.exists_counted {session : Session R} (reachable : session.Reachable) :
    ∃ count meanTime successRate, session.analytics = .counted count meanTime successRate := by
  induction reachable with
  | fresh made => exact ⟨_, _, _, Compiler.analytics_of_newSession made⟩
  | compiled _ compiler request clock inductionHypothesis =>
      rcases inductionHypothesis with ⟨count, meanTime, successRate, counted⟩
      simp only [Compiler.compile]
      split
      · exact Compiler.exists_counted_of_finishFailed counted
      · exact Compiler.exists_counted_of_finishComplete counted

/-- The phases and results of a compilation that failed with a message. Without a plan there is only
the closing entry. Otherwise some phases succeeded, the next one failed with that message, and the
others were not started. -/
inductive Compilation.Failed (compiler : Compiler R) (compilation : Compilation R)
    (message : String) : Prop where
  | unplanned {fault : Fault}
      (obstacle : compiler.registry.plan StandardPhase.pipeline = .error fault)
      (text : fault.message = message)
      (phases : compilation.phases = [.closing (Text.dropBeginning message "error: ")])
      (results : compilation.results = [])
  | stopped {order : List String} {complete pending : List PhaseStatus} {failed : PhaseStatus}
      {earlier : List (String × PhaseResult (Artifact R))} {result : PhaseResult (Artifact R)}
      (planned : compiler.registry.plan StandardPhase.pipeline = .ok order)
      (ids : (complete ++ failed :: pending).map PhaseStatus.id = order)
      (phases : compilation.phases =
        complete ++ failed :: (pending ++ [.closing (Text.dropBeginning message "error: ")]))
      (isComplete : ∀ status ∈ complete, status.status = .complete)
      (isFailed : failed.status = .failed) (details : failed.details = message)
      (isPending : ∀ status ∈ pending, status.status = .pending)
      (results : compilation.results = earlier ++ [(failed.id, result)])
      (success : ∀ entry ∈ earlier, entry.2.success = true)
      (failure : result.success = false)
      (text : result.message = message)

/-- A compilation that ran all phases of the plan to completion, with this semantic graph. -/
structure Compilation.Completed (compiler : Compiler R) (compilation : Compilation R)
    (graph : SemanticGraph R) : Prop where
  planned : compiler.registry.plan StandardPhase.pipeline =
    .ok (compilation.phases.map PhaseStatus.id)
  isComplete : ∀ status ∈ compilation.phases, status.status = .complete
  semantics : ∃ summary,
    compilation.results.lookup "semantic" = some ⟨true, some (.semantics graph), summary⟩
  output : ∃ rendered summary, compilation.output = some rendered ∧
    compilation.results.lookup "output" = some ⟨true, some (.rendered rendered), summary⟩
  error : compilation.error = none

namespace Compiler

variable {compiler : Compiler R} {request : Request} {session : Session R} {clock : Clock R}
  {count : Nat} {meanTime successRate : R}

/-- How long a compilation took, in milliseconds. -/
def duration (clock : Clock R) : R :=
  (clock.finished - clock.started) * (1000.0 : R)

omit [Quantity R] in
theorem runPipeline_of_obstacle {fault : Fault}
    (obstacle : compiler.registry.plan StandardPhase.pipeline = .error fault) :
    compiler.runPipeline request session clock = ({}, some fault.message) := by
  rw [runPipeline, Registry.run, Registry.schedule, obstacle]
  rfl

omit [Quantity R] in
theorem runPipeline_of_run {run : Run (Artifact R)}
    (ran : compiler.registry.run request (compiler.surroundings session clock)
      StandardPhase.pipeline = .ok run) :
    compiler.runPipeline request session clock = (run, run.failure?.map PhaseResult.message) := by
  rw [runPipeline, ran]

theorem compile_of_failure {run : Run (Artifact R)} {message : String} {next : Session R}
    (ran : compiler.runPipeline request session clock = (run, some message))
    (recorded : session.record (duration clock) false = .ok next) :
    compiler.compile request session clock = {
      session := next
      events := run.events ++ [.closing (Text.dropBeginning message "error: ")]
      answer := .ok {
        success := false
        format := .ofRequest request.format
        phases := run.phases ++ [.closing (Text.dropBeginning message "error: ")]
        results := run.results
        error := some message
        duration := duration clock } } := by
  rw [duration] at recorded
  rw [compile, ran]
  simp only [finishFailed, recorded, duration]

theorem compile_of_success {run : Run (Artifact R)} {graph : SemanticGraph R}
    {rendered : Rendered R} {time : Int} {semanticSummary outputSummary : String} {next : Session R}
    (ran : compiler.runPipeline request session clock = (run, none))
    (semantics : run.result? "semantic" = some ⟨true, some (.semantics graph), semanticSummary⟩)
    (output : run.result? "output" = some ⟨true, some (.rendered rendered), outputSummary⟩)
    (dated : milliseconds clock.now = .ok time)
    (recorded : (session.remember (graph.contextEntry time)).record (duration clock)
      (Report.isConfident graph) = .ok next) :
    compiler.compile request session clock = {
      session := next
      events := run.events
      answer := .ok {
        success := true
        format := .ofRequest request.format
        output := some rendered
        phases := run.phases
        results := run.results
        duration := duration clock } } := by
  rw [duration] at recorded
  rw [compile, ran]
  simp only [finishComplete, produced, semantics, output, Option.bind_some, ok_bind, pure_eq_ok,
    Artifact.asSemantics, dated, recorded, asRendered, duration]

/-- Without a plan a compilation fails with the text of the obstacle, and is counted. -/
theorem compile_of_obstacle {fault : Fault} {next : Session R}
    (obstacle : compiler.registry.plan StandardPhase.pipeline = .error fault)
    (recorded : session.record (duration clock) false = .ok next) :
    ∃ compilation, (compiler.compile request session clock).answer = .ok compilation ∧
      (compiler.compile request session clock).session = next ∧ compilation.success = false ∧
        compilation.output = none ∧ compilation.error = some fault.message ∧
          compilation.Failed compiler fault.message := by
  rw [compile_of_failure (runPipeline_of_obstacle obstacle) recorded]
  exact ⟨_, rfl, rfl, rfl, rfl, rfl, .unplanned obstacle rfl rfl rfl⟩

/-- A compilation whose run stopped at a phase fails with the message of that phase. -/
theorem compile_of_stopped {order : List String} {run : Run (Artifact R)}
    {complete pending : List PhaseStatus} {failed : PhaseStatus} {next : Session R}
    (planned : compiler.registry.plan StandardPhase.pipeline = .ok order)
    (ran : compiler.registry.run request (compiler.surroundings session clock)
      StandardPhase.pipeline = .ok run)
    (ids : run.phases.map PhaseStatus.id = order)
    (course : run.Course compiler.registry request (compiler.surroundings session clock)
      run.Produced complete (some failed) pending)
    (recorded : session.record (duration clock) false = .ok next) :
    ∃ compilation, (compiler.compile request session clock).answer = .ok compilation ∧
      (compiler.compile request session clock).session = next ∧ compilation.success = false ∧
        compilation.output = none ∧ compilation.error = some failed.details ∧
          compilation.Failed compiler failed.details := by
  rcases course.exists_failure with ⟨earlier, result, results, success, failure, details, first⟩
  have piped : compiler.runPipeline request session clock = (run, some failed.details) := by
    rw [runPipeline_of_run ran, first, Option.map_some, details]
  rw [compile_of_failure piped recorded]
  refine ⟨_, rfl, rfl, rfl, rfl, rfl, ?_⟩
  have phases : run.phases = complete ++ failed :: pending := course.phases
  refine .stopped planned (phases ▸ ids) ?_ course.isComplete (course.isFailed failed rfl) rfl
    (fun status status_mem => (course.isPending status status_mem).1) results success failure
    details
  rw [phases, List.append_assoc, List.cons_append]

omit [Quantity R] in
/-- A requested phase of a run without failure produced something. -/
theorem exists_produced {order : List String} {run : Run (Artifact R)} {complete : List PhaseStatus}
    {pending : List PhaseStatus} {id : String} {phase : StandardPhase R}
    (planned : compiler.registry.plan StandardPhase.pipeline = .ok order)
    (ids : run.phases.map PhaseStatus.id = order)
    (course : run.Course compiler.registry request (compiler.surroundings session clock)
      run.Produced complete none pending)
    (requested : id ∈ StandardPhase.pipeline) (found : compiler.registry.find? id = some phase) :
    ∃ artifact summary inputs, run.result? id = some ⟨true, some artifact, summary⟩ ∧
      phase.process request inputs (compiler.surroundings session clock) =
        .ok (.produced artifact summary) := by
  have id_mem : id ∈ order :=
    (Registry.mem_plan_iff planned).mpr ⟨id, requested, Relation.ReflTransGen.refl⟩
  rw [← ids, course.phases, course.stopped rfl, List.append_nil] at id_mem
  rcases course.exists_result id_mem with ⟨result, atId, result_mem⟩
  rcases course.answers _ result_mem with ⟨same, inputs, sameFound, _, _, reports⟩
  have success := course.success_of_unfailed _ result_mem
  rw [found, Option.some.injEq] at sameFound
  subst sameFound
  cases reports with
  | produced ended => exact ⟨_, _, inputs, atId, ended⟩
  | refused ended => contradiction
  | brokeDown ended => contradiction

/-- A compilation of which every phase succeeded remembers its semantic graph. -/
theorem compile_of_completed {order : List String} {run : Run (Artifact R)}
    {complete pending : List PhaseStatus} {time : Int}
    (semantic : compiler.registry.find? "semantic" = some StandardPhase.semantic)
    (output : compiler.registry.find? "output" = some StandardPhase.output)
    (planned : compiler.registry.plan StandardPhase.pipeline = .ok order)
    (ran : compiler.registry.run request (compiler.surroundings session clock)
      StandardPhase.pipeline = .ok run)
    (ids : run.phases.map PhaseStatus.id = order)
    (course : run.Course compiler.registry request (compiler.surroundings session clock)
      run.Produced complete none pending)
    (dated : milliseconds clock.now = .ok time)
    (counted : session.analytics = .counted count meanTime successRate)
    (counts : Quantity.Counts R (count + 1)) :
    ∃ compilation graph nextTime nextRate,
      (compiler.compile request session clock).answer = .ok compilation ∧
      (compiler.compile request session clock).session =
        { memory := session.memory.append (graph.contextEntry time)
          analytics := .counted (count + 1) nextTime nextRate } ∧
      compilation.success = true ∧ compilation.Completed compiler graph := by
  rcases exists_produced planned ids course (by decide) semantic with
    ⟨artifact, summary, _, semantics, ended⟩
  obtain ⟨graph, rfl⟩ : ∃ graph, artifact = .semantics graph := by
    rcases StandardPhase.exists_reading_of_produced ended with ⟨tree, tokens, read⟩
    exact ⟨_, read⟩
  rcases exists_produced planned ids course (by decide) output with
    ⟨artifact, outputSummary, _, outputs, outputEnded⟩
  rcases StandardPhase.exists_report_of_produced outputEnded with ⟨_, rendered, rfl, _, _⟩
  have remembered : (session.remember (graph.contextEntry time)).analytics =
      .counted count meanTime successRate := counted
  rcases Session.exists_record remembered counts (duration clock) (Report.isConfident graph) with
    ⟨nextTime, nextRate, recorded⟩
  have piped : compiler.runPipeline request session clock = (run, none) := by
    rw [runPipeline_of_run ran, course.failure?_of_unfailed, Option.map_none]
  rw [compile_of_success piped semantics outputs dated recorded]
  refine ⟨_, graph, nextTime, nextRate, rfl, rfl, rfl, ?_⟩
  have phases : run.phases = complete := by
    rw [course.phases, course.stopped rfl, Option.toList_none, List.append_nil, List.append_nil]
  exact {
    planned := ids ▸ planned
    isComplete := phases ▸ course.isComplete
    semantics := ⟨summary, semantics⟩
    output := ⟨rendered, outputSummary, rfl, outputs⟩
    error := rfl }

/-- With the standard semantic and output phases, a compilation in a reachable session always
answers, and is counted once. A failed one leaves the memory as it was and tells of the failure; a
successful one completes every phase and adds the entry of its semantic graph to the memory. -/
theorem compile_answers {time : Int} (request : Request)
    (semantic : compiler.registry.find? "semantic" = some StandardPhase.semantic)
    (output : compiler.registry.find? "output" = some StandardPhase.output)
    (reachable : session.Reachable)
    (counts : ∀ count : Nat, session.analytics.compilations = .int count →
      Quantity.Counts R (count + 1))
    (dated : milliseconds clock.now = .ok time) :
    ∃ (compilation : Compilation R) (count : Nat),
      (compiler.compile request session clock).answer = .ok compilation ∧
      session.analytics.compilations = .int count ∧
      (compiler.compile request session clock).session.analytics.compilations =
        .int (count + 1 : Nat) ∧
      (compilation.success = false ∧
          (compiler.compile request session clock).session.memory = session.memory ∧
          compilation.output = none ∧
          (∃ message, compilation.error = some message ∧ compilation.Failed compiler message) ∨
        compilation.success = true ∧
          ∃ graph, compilation.Completed compiler graph ∧
            (compiler.compile request session clock).session.memory =
              session.memory.append (graph.contextEntry time)) := by
  rcases reachable.exists_counted with ⟨count, meanTime, successRate, counted⟩
  have number : session.analytics.compilations = .int count := by
    rw [counted]
    rfl
  have inRange := counts count number
  rcases Session.exists_record counted inRange (duration clock) false with
    ⟨nextTime, nextRate, recorded⟩
  cases planned : compiler.registry.plan StandardPhase.pipeline with
  | error fault =>
      rcases compile_of_obstacle planned recorded with
        ⟨compilation, answer, next, failure, noOutput, error, failed⟩
      refine ⟨compilation, count, answer, number, by rw [next]; rfl, Or.inl ?_⟩
      exact ⟨failure, by rw [next], noOutput, _, error, failed⟩
  | ok order =>
      rcases Registry.exists_run request (compiler.surroundings session clock) planned with
        ⟨run, ran, places, complete, failed, pending, course⟩
      have ids : run.phases.map PhaseStatus.id = order := Run.ids_of_places places
      cases failed with
      | some failed =>
          rcases compile_of_stopped planned ran ids course recorded with
            ⟨compilation, answer, next, failure, noOutput, error, failed⟩
          refine ⟨compilation, count, answer, number, by rw [next]; rfl, Or.inl ?_⟩
          exact ⟨failure, by rw [next], noOutput, _, error, failed⟩
      | none =>
          rcases compile_of_completed semantic output planned ran ids course dated counted inRange
            with ⟨compilation, graph, nextTime, nextRate, answer, next, success, completed⟩
          refine ⟨compilation, count, answer, number, by rw [next]; rfl, Or.inr ?_⟩
          exact ⟨success, graph, completed, by rw [next]⟩

/-- A compiler whose dictionary breaks down at every word. -/
def stranded : Compiler Float where
  config := .standard
  service := fun _ => .crashed "torn"
  registry := StandardPhase.all

/-- Clocks that stand still. -/
def stopped : Clock Float where
  started := 0.0
  writing := 0.0
  finished := 0.0
  now := 0.0
  timestamp := ""

theorem milliseconds_stopped : milliseconds stopped.now = .ok 0 := by
  have whole : Quantity.wholePart? (stopped.now * (1000.0 : Float)) = some 0 := by decide +kernel
  rw [milliseconds, whole]

theorem compile_answers_stranded :
    ∃ compilation : Compilation Float,
      (stranded.compile { text := "dogs run" } (.fresh .default) stopped).answer = .ok compilation ∧
      (stranded.compile { text := "dogs run" } (.fresh .default)
        stopped).session.analytics.compilations = .int 1 := by
  have made : stranded.newSession = .ok (.fresh .default) := rfl
  have counts : ∀ count : Nat,
      (Session.fresh .default : Session Float).analytics.compilations = .int count →
        Quantity.Counts Float (count + 1) := by
    intro count same
    have zero : (0 : Int) = count := Value.int.inj same
    rw [Int.natCast_eq_zero.mp zero.symm]
    intro smaller bound
    obtain rfl | rfl : smaller = 0 ∨ smaller = 1 := by omega
    · decide +kernel
    · decide +kernel
  have semantic : stranded.registry.find? "semantic" = some StandardPhase.semantic := rfl
  have output : stranded.registry.find? "output" = some StandardPhase.output := rfl
  rcases compile_answers { text := "dogs run" } semantic output (.fresh made) counts
    milliseconds_stopped with ⟨compilation, count, answer, number, next, _⟩
  have zero : (0 : Int) = count := Value.int.inj number
  exact ⟨compilation, answer, by rw [next, Int.natCast_eq_zero.mp zero.symm]; rfl⟩

end Compiler

end SentenceGraph
