import SentenceGraph.Proofs.Compiling
import SentenceGraph.Proofs.Exact
import SentenceGraph.Proofs.Remembering

/-!
# Sessions over many calls

Any number of calls of a compiler may use one session, each with texts and replies of its own. Every
call answers; a failed one is only counted, and a successful one is counted as a success and adds
the names of its sentence to the memory, after its document was written. So the totals of the
session are means over all calls, and the memory holds the names of the last successful ones.

The induction is on the list of calls from its end, and what it carries is `Session.SumsUp`: means
are told by their products with the number of calls, which makes sense before the first call too.
-/

namespace SentenceGraph

open Fallible

variable {R : Type} [Quantity R]

/-- What a call is made with: a compiler with the dictionary that it finds at the time, a request
and the clocks. -/
structure Attempt (R : Type) where
  compiler : Compiler R
  request : Request
  clock : Clock R

namespace Session

/-- The call of an attempt in a session. -/
def call (session : Session R) (attempt : Attempt R) : Call R :=
  attempt.compiler.compile attempt.request session attempt.clock

/-- The session that a list of attempts leads to. -/
def after (session : Session R) (attempts : List (Attempt R)) : Session R :=
  attempts.foldl (fun reached attempt => (reached.call attempt).session) session

/-- The calls of a list of attempts, each in the session that those before it lead to. -/
def calls (session : Session R) : List (Attempt R) → List (Call R)
  | [] => []
  | attempt :: rest => session.call attempt :: calls (session.call attempt).session rest

@[simp]
theorem after_nil (session : Session R) : session.after [] = session := rfl

@[simp]
theorem after_cons (session : Session R) (attempt : Attempt R) (rest : List (Attempt R)) :
    session.after (attempt :: rest) = (session.call attempt).session.after rest := rfl

@[simp]
theorem after_append (session : Session R) (earlier later : List (Attempt R)) :
    session.after (earlier ++ later) = (session.after earlier).after later :=
  List.foldl_append

theorem calls_append (session : Session R) (earlier later : List (Attempt R)) :
    session.calls (earlier ++ later) =
      session.calls earlier ++ (session.after earlier).calls later := by
  induction earlier generalizing session with
  | nil => rfl
  | cons attempt earlier inductionHypothesis =>
      rw [List.cons_append, calls, inductionHypothesis]
      rfl

theorem length_calls (session : Session R) (attempts : List (Attempt R)) :
    (session.calls attempts).length = attempts.length := by
  induction attempts generalizing session with
  | nil => rfl
  | cons attempt rest inductionHypothesis =>
      rw [calls, List.length_cons, inductionHypothesis, List.length_cons]

theorem getElem?_calls (session : Session R) (attempts : List (Attempt R)) (index : Nat) :
    (session.calls attempts)[index]? =
      attempts[index]?.map (session.after (attempts.take index)).call := by
  induction attempts generalizing session index with
  | nil => rfl
  | cons attempt rest inductionHypothesis =>
      cases index with
      | zero => rfl
      | succ index =>
          rw [calls, List.getElem?_cons_succ, inductionHypothesis]
          rfl

end Session

/-- The semantic graph among the results of a compilation. -/
def Compilation.graph? (compilation : Compilation R) : Option (SemanticGraph R) :=
  match (compilation.results.lookup "semantic").bind PhaseResult.data with
  | some (.semantics graph) => some graph
  | _ => none

/-- The names that are remembered of a sentence: its main subject and its main action. -/
def SemanticGraph.mainNames (graph : SemanticGraph R) : Value R × Value R :=
  (.ofText? graph.mainSubject?, .ofText? graph.mainAction?)

/-- The names in an entry of the memory. -/
def ContextEntry.mainNames (entry : ContextEntry R) : Value R × Value R :=
  (entry.subject, entry.action)

/-- A call in a session that failed: the session is counted, and its memory is as before. -/
structure Call.Failed (call : Call R) (session : Session R) (clock : Clock R)
    (compilation : Compilation R) : Prop where
  answer : call.answer = .ok compilation
  failure : compilation.success = false
  duration : compilation.duration = Compiler.duration clock
  totals : session.analytics.record compilation.duration false = .ok call.session.analytics
  memory : call.session.memory = session.memory

/-- A call in a session that succeeded with a semantic graph: the sentence was read and the document
was written with the memory as it was before, and the session remembers the graph. -/
structure Call.Succeeded (call : Call R) (session : Session R) (clock : Clock R)
    (compilation : Compilation R) (graph : SemanticGraph R) : Prop where
  answer : call.answer = .ok compilation
  success : compilation.success = true
  duration : compilation.duration = Compiler.duration clock
  totals :
    session.analytics.record compilation.duration (Report.isConfident graph) =
      .ok call.session.analytics
  semantics : compilation.graph? = some graph
  reading : ∃ tree tokens, graph = .ofTree tree tokens session.memory
  document :
    ∃ (report : Report R) (rendered : Rendered R), compilation.output = some rendered ∧
      rendered.document = report.document ∧ report.memory = session.memory
  memory :
    ∃ time, milliseconds clock.now = .ok time ∧
      call.session.memory = session.memory.append (graph.contextEntry time)

namespace Compiler

variable {compiler : Compiler R} {request : Request} {session : Session R} {clock : Clock R}

theorem failed_of_runPipeline {run : Run (Artifact R)} {message : String} {totals : Analytics R}
    (ran : compiler.runPipeline request session clock = (run, some message))
    (recorded : session.analytics.record (duration clock) false = .ok totals) :
    ∃ compilation, (compiler.compile request session clock).Failed session clock compilation := by
  have counted : session.record (duration clock) false =
      .ok { session with analytics := totals } := by
    rw [Session.record, recorded]
    rfl
  rw [compile_of_failure ran counted]
  exact ⟨_, rfl, rfl, rfl, recorded, rfl⟩

/-- Whatever the phases are, an answer that tells of a failure is that of a failed call. -/
theorem failed_of_answer {compilation : Compilation R}
    (answered : (compiler.compile request session clock).answer = .ok compilation)
    (failure : compilation.success = false) :
    (compiler.compile request session clock).Failed session clock compilation := by
  cases ran : compiler.runPipeline request session clock with
  | mk run message? =>
      cases message? with
      | some message =>
          cases recorded : session.analytics.record (duration clock) false with
          | ok totals =>
              rcases failed_of_runPipeline ran recorded with ⟨other, ended⟩
              cases ended.answer.symm.trans answered
              exact ended
          | error fault =>
              have uncounted : session.record (duration clock) false = .error fault := by
                rw [Session.record, recorded]
                rfl
              rw [duration] at uncounted
              simp only [compile, ran, finishFailed, uncounted] at answered
              contradiction
      | none =>
          -- Only a complete run is answered as a success.
          simp only [compile, ran, finishComplete] at answered
          split at answered
          · contradiction
          · split at answered
            · contradiction
            · rcases bind_eq_ok_iff.mp answered with ⟨rendered, _, same⟩
              cases same
              contradiction

theorem succeeded_of_runPipeline {run : Run (Artifact R)} {tree : ParseTree R}
    {tokens : List (Token R)} {report : Report R} {rendered : Rendered R} {time : Int}
    {semanticSummary outputSummary : String}
    (ran : compiler.runPipeline request session clock = (run, none))
    (semantics : run.result? "semantic" =
      some ⟨true, some (.semantics (.ofTree tree tokens session.memory)), semanticSummary⟩)
    (output : run.result? "output" = some ⟨true, some (.rendered rendered), outputSummary⟩)
    (document : rendered.document = report.document) (shown : report.memory = session.memory)
    (dated : milliseconds clock.now = .ok time)
    (records : ∀ success, ∃ totals,
      session.analytics.record (duration clock) success = .ok totals) :
    ∃ compilation graph,
      (compiler.compile request session clock).Succeeded session clock compilation graph := by
  rcases records (Report.isConfident (.ofTree tree tokens session.memory)) with ⟨totals, recorded⟩
  have counted :
      (session.remember
        ((SemanticGraph.ofTree tree tokens session.memory).contextEntry time)).record
          (duration clock) (Report.isConfident (.ofTree tree tokens session.memory)) =
      .ok {
        memory := session.memory.append
          ((SemanticGraph.ofTree tree tokens session.memory).contextEntry time)
        analytics := totals } := by
    rw [Session.record, Session.remember, recorded]
    rfl
  have found : Compilation.graph?
      { success := true, format := .ofRequest request.format, output := some rendered,
        phases := run.phases, results := run.results, duration := duration clock } =
      some (.ofTree tree tokens session.memory) := by
    rw [Run.result?] at semantics
    rw [Compilation.graph?, semantics]
    rfl
  rw [compile_of_success ran semantics output dated counted]
  exact ⟨_, _, rfl, rfl, rfl, recorded, found, ⟨tree, tokens, rfl⟩,
    ⟨report, rendered, rfl, document, shown⟩, ⟨time, dated, rfl⟩⟩

/-- In a session that can be counted, every call fails or succeeds. -/
theorem compile_ends {time : Int}
    (semantic : compiler.registry.find? "semantic" = some StandardPhase.semantic)
    (output : compiler.registry.find? "output" = some StandardPhase.output)
    (dated : milliseconds clock.now = .ok time)
    (records : ∀ success, ∃ totals,
      session.analytics.record (duration clock) success = .ok totals) :
    (∃ compilation, (compiler.compile request session clock).Failed session clock compilation) ∨
      ∃ compilation graph,
        (compiler.compile request session clock).Succeeded session clock compilation graph := by
  rcases records false with ⟨afterFailure, recorded⟩
  cases planned : compiler.registry.plan StandardPhase.pipeline with
  | error fault => exact Or.inl (failed_of_runPipeline (runPipeline_of_obstacle planned) recorded)
  | ok order =>
      rcases Registry.exists_run request (compiler.surroundings session clock) planned with
        ⟨run, ran, places, complete, failed, pending, course⟩
      cases failed with
      | some failed =>
          rcases course.exists_failure with ⟨_, result, _, _, _, _, first⟩
          have piped := runPipeline_of_run ran
          rw [first, Option.map_some] at piped
          exact Or.inl (failed_of_runPipeline piped recorded)
      | none =>
          have ids : run.phases.map PhaseStatus.id = order := Run.ids_of_places places
          have piped := runPipeline_of_run ran
          rw [course.failure?_of_unfailed, Option.map_none] at piped
          rcases exists_produced planned ids course (by decide) semantic with
            ⟨artifact, summary, _, semantics, ended⟩
          rcases StandardPhase.exists_reading_of_produced ended with ⟨tree, tokens, rfl⟩
          rcases exists_produced planned ids course (by decide) output with
            ⟨artifact, outputSummary, _, outputs, outputEnded⟩
          rcases StandardPhase.exists_report_of_produced outputEnded with
            ⟨report, rendered, rfl, document, shown⟩
          have produced : (compiler.surroundings session clock).memory = session.memory := rfl
          rw [produced] at semantics shown
          right
          exact succeeded_of_runPipeline piped semantics outputs document shown dated records

end Compiler

/-- What calls of a compiler made of a new session: means over the compilations, and the end of a
list of entries that name the semantic graphs of the successful ones. -/
structure Session.SumsUp (session : Session ℚ) (capacity : Capacity)
    (compilations : List (Compilation ℚ)) (graphs : List (SemanticGraph ℚ)) : Prop where
  totals :
    ∃ meanTime successRate,
      session.analytics = .counted compilations.length meanTime successRate ∧
      meanTime * compilations.length = (compilations.map Compilation.duration).sum ∧
      successRate * compilations.length = 100 * compilations.countP Compilation.success
  semantics :
    (compilations.filter Compilation.success).map Compilation.graph? = graphs.map some
  memory :
    ∃ entries, session.memory = .ofEntries capacity entries ∧
      entries.map ContextEntry.mainNames = graphs.map SemanticGraph.mainNames

namespace Session.SumsUp

variable {session : Session ℚ} {capacity : Capacity} {compilations : List (Compilation ℚ)}
  {graphs : List (SemanticGraph ℚ)} {attempt : Attempt ℚ} {compilation : Compilation ℚ}

theorem fresh (capacity : Capacity) :
    (Session.fresh capacity : Session ℚ).SumsUp capacity [] [] where
  totals := ⟨_, _, rfl, by simp, by simp⟩
  semantics := rfl
  memory := ⟨[], rfl, rfl⟩

/-- Means over one more compilation. -/
theorem totals_snoc {next : Session ℚ} {success : Bool}
    (sums : session.SumsUp capacity compilations graphs)
    (recorded : session.analytics.record compilation.duration success = .ok next.analytics)
    (same : compilation.success = success) :
    ∃ meanTime successRate,
      next.analytics = .counted (compilations ++ [compilation]).length meanTime successRate ∧
      meanTime * (compilations ++ [compilation]).length =
        ((compilations ++ [compilation]).map Compilation.duration).sum ∧
      successRate * (compilations ++ [compilation]).length =
        100 * (compilations ++ [compilation]).countP Compilation.success := by
  rcases sums.totals with ⟨meanTime, successRate, counted, timeSum, successSum⟩
  rw [counted, Analytics.record_exact] at recorded
  have positive : ((compilations.length + 1 : Nat) : ℚ) ≠ 0 := by
    exact_mod_cast Nat.succ_ne_zero compilations.length
  rw [List.length_append, List.length_singleton]
  refine ⟨_, _, (Except.ok.inj recorded).symm, ?_, ?_⟩
  · rw [div_mul_cancel₀ _ positive, timeSum]
    simp
  · rw [div_mul_cancel₀ _ positive, successSum, List.countP_append, List.countP_singleton, same]
    cases success with
    | false => simp
    | true => simp [mul_add]

theorem failed (sums : session.SumsUp capacity compilations graphs)
    (ended : (session.call attempt).Failed session attempt.clock compilation) :
    (session.call attempt).session.SumsUp capacity (compilations ++ [compilation]) graphs where
  totals := sums.totals_snoc ended.totals ended.failure
  semantics := by simpa [ended.failure] using sums.semantics
  memory := ended.memory ▸ sums.memory

theorem succeeded {graph : SemanticGraph ℚ} (sums : session.SumsUp capacity compilations graphs)
    (ended : (session.call attempt).Succeeded session attempt.clock compilation graph) :
    (session.call attempt).session.SumsUp capacity (compilations ++ [compilation])
      (graphs ++ [graph]) where
  totals := by
    have confident : Report.isConfident graph = true := by
      rcases ended.reading with ⟨tree, tokens, rfl⟩
      exact decide_eq_true (SemanticGraph.overallConfidence_between tree tokens session.memory).1
    have recorded := ended.totals
    rw [confident] at recorded
    exact sums.totals_snoc recorded ended.success
  semantics := by simpa [ended.success, ended.semantics] using sums.semantics
  memory := by
    rcases sums.memory with ⟨entries, memory, names⟩
    rcases ended.memory with ⟨time, _, next⟩
    refine ⟨entries ++ [graph.contextEntry time], ?_, ?_⟩
    · rw [next, memory, ContextMemory.append_ofEntries]
    · rw [List.map_append, List.map_append, names]
      rfl

end Session.SumsUp

namespace Session

variable {starter : Compiler ℚ} {session : Session ℚ} {attempts : List (Attempt ℚ)}

/-- In a session that sums up, a call with the standard phases fails or succeeds. -/
theorem SumsUp.call_ends {capacity : Capacity} {compilations : List (Compilation ℚ)}
    {graphs : List (SemanticGraph ℚ)} {attempt : Attempt ℚ}
    (sums : session.SumsUp capacity compilations graphs)
    (standard : attempt.compiler.registry = StandardPhase.all) :
    (∃ compilation, (session.call attempt).Failed session attempt.clock compilation) ∨
      ∃ compilation graph,
        (session.call attempt).Succeeded session attempt.clock compilation graph := by
  rcases exists_milliseconds attempt.clock.now with ⟨time, dated⟩
  rcases sums.totals with ⟨meanTime, successRate, counted, _⟩
  apply Compiler.compile_ends _ _ dated
  · intro success
    rw [counted, Analytics.record_exact]
    exact ⟨_, rfl⟩
  · rw [standard]
    rfl
  · rw [standard]
    rfl

theorem exists_sumsUp (capacity : Capacity)
    (standard : ∀ attempt ∈ attempts, attempt.compiler.registry = StandardPhase.all) :
    ∃ compilations graphs,
      ((Session.fresh capacity).calls attempts).map Call.answer = compilations.map Except.ok ∧
        ((Session.fresh capacity).after attempts).SumsUp capacity compilations graphs := by
  induction attempts using List.reverseRecOn with
  | nil => exact ⟨[], [], rfl, SumsUp.fresh capacity⟩
  | append_singleton earlier attempt inductionHypothesis =>
      rcases inductionHypothesis fun other other_mem => standard other (by simp [other_mem]) with
        ⟨compilations, graphs, answers, sums⟩
      rw [calls_append, after_append, List.map_append, answers]
      rcases sums.call_ends (standard attempt (by simp)) with
        ⟨compilation, ended⟩ | ⟨compilation, graph, ended⟩
      · refine ⟨compilations ++ [compilation], graphs, ?_, sums.failed ended⟩
        simp [calls, ended.answer]
      · refine ⟨compilations ++ [compilation], graphs ++ [graph], ?_, sums.succeeded ended⟩
        simp [calls, ended.answer]

end Session

theorem Compiler.eq_fresh_of_newSession {compiler : Compiler R} {session : Session R}
    (made : compiler.newSession = .ok session) :
    session = .fresh (.count compiler.config.memorySize.toNat) := by
  rcases bind_eq_ok_iff.mp made with ⟨capacity, sized, same⟩
  rcases Capacity.ofInt_eq_ok_iff.mp sized with ⟨_, _, rfl⟩
  exact (Except.ok.inj same).symm

/-- A successful call shows in its document the last entries of the memory as it was before. -/
theorem Call.Succeeded.shows_memory {call : Call R} {session : Session R} {clock : Clock R}
    {compilation : Compilation R} {graph : SemanticGraph R}
    (ended : call.Succeeded session clock compilation graph) :
    ∃ rendered, compilation.output = some rendered ∧
      Value.member? rendered.document "context_memory" =
        some (.list ((lastItems 3 session.memory.entries).map ContextEntry.toValue)) := by
  rcases ended.document with ⟨report, rendered, output, document, memory⟩
  refine ⟨rendered, output, ?_⟩
  rw [document, ← memory]
  rfl

namespace Session

variable {starter : Compiler ℚ} {session : Session ℚ} {attempts : List (Attempt ℚ)}

/-- Calls of a compiler with the standard phases, in a session that started without history, all
answer. The totals of the session count them, with the mean of their durations and the percentage of
successes. Its memory holds the names of the last successful ones, as many as it has room for, and
the document of a successful call shows the last three entries of the memory before that call. -/
theorem calls_sum_up (made : starter.newSession = .ok session)
    (standard : ∀ attempt ∈ attempts, attempt.compiler.registry = StandardPhase.all)
    (called : attempts ≠ []) :
    ∃ (compilations : List (Compilation ℚ)) (graphs : List (SemanticGraph ℚ)),
      (session.calls attempts).map Call.answer = compilations.map Except.ok ∧
      (session.after attempts).analytics =
        .counted attempts.length
          ((compilations.map Compilation.duration).sum / attempts.length)
          (100 * compilations.countP Compilation.success / attempts.length) ∧
      (compilations.filter Compilation.success).map Compilation.graph? = graphs.map some ∧
      (session.after attempts).memory.entries.map ContextEntry.mainNames =
        (lastItems
          (min (compilations.countP Compilation.success) starter.config.memorySize.toNat)
          graphs).map SemanticGraph.mainNames ∧
      ∀ index compilation, compilations[index]? = some compilation → compilation.success = true →
        ∃ rendered, compilation.output = some rendered ∧
          Value.member? rendered.document "context_memory" =
            some (.list
              ((lastItems (min 3 (session.after (attempts.take index)).memory.entries.length)
                (session.after (attempts.take index)).memory.entries).map ContextEntry.toValue)) := by
  rw [Compiler.eq_fresh_of_newSession made]
  rcases exists_sumsUp (.count starter.config.memorySize.toNat) standard with
    ⟨compilations, graphs, answers, sums⟩
  have length : compilations.length = attempts.length := by
    have lengths := congrArg List.length answers
    simpa [length_calls] using lengths.symm
  refine ⟨compilations, graphs, answers, ?_, sums.semantics, ?_, ?_⟩
  · rcases sums.totals with ⟨meanTime, successRate, counted, timeSum, successSum⟩
    have positive : (attempts.length : ℚ) ≠ 0 := by
      exact_mod_cast List.length_eq_zero_iff.not.mpr called
    rw [length] at counted timeSum successSum
    rw [counted, eq_div_of_mul_eq positive timeSum, eq_div_of_mul_eq positive successSum]
  · rcases sums.memory with ⟨entries, memory, names⟩
    have successes : graphs.length = compilations.countP Compilation.success := by
      have lengths := congrArg List.length sums.semantics
      rw [List.length_map, List.length_map, ← List.countP_eq_length_filter] at lengths
      exact lengths.symm
    rw [memory, ← successes, min_comm, lastItems_min_length, map_lastItems, ← names,
      ← map_lastItems]
    rfl
  · intro index compilation here success
    have called := congrArg (fun answers => answers[index]?) answers
    simp only [List.getElem?_map, getElem?_calls, here, Option.map_map] at called
    rcases Option.map_eq_some_iff.mp called with ⟨attempt, attempted, answer⟩
    have standardBefore : ∀ other ∈ attempts.take index,
        other.compiler.registry = StandardPhase.all := by
      intro other other_mem
      exact standard other (List.mem_of_mem_take other_mem)
    rcases exists_sumsUp (.count starter.config.memorySize.toNat) standardBefore with
      ⟨_, _, _, sumsBefore⟩
    rw [lastItems_min_length]
    rcases sumsBefore.call_ends (standard attempt (List.mem_of_getElem? attempted)) with
      ⟨other, ended⟩ | ⟨other, graph, ended⟩
    · cases ended.answer.symm.trans answer
      rw [ended.failure] at success
      contradiction
    · cases ended.answer.symm.trans answer
      exact ended.shows_memory

/-- A compiler of one remembered sentence, with a dictionary that knows no word. -/
def forgetful : Compiler ℚ where
  config := { lookupTimeout := 5, memorySize := 1 }
  service := fun _ => .notFound
  registry := StandardPhase.all

/-- A sentence that is compiled, and another one for which the dictionary breaks down. -/
def unevenAttempts : List (Attempt ℚ) :=
  [⟨forgetful, { text := "dogs run" }, ⟨0, 0, 1, 0, ""⟩⟩,
    ⟨{ forgetful with service := fun _ => .crashed "torn" }, { text := "cats sleep" },
      ⟨0, 0, 2, 0, ""⟩⟩]

theorem calls_sum_up_forgetful :
    forgetful.newSession = .ok (.fresh (.count 1)) ∧
      ∃ compilations : List (Compilation ℚ),
        ((Session.fresh (.count 1)).calls unevenAttempts).map Call.answer =
          compilations.map Except.ok ∧
        ((Session.fresh (.count 1)).after unevenAttempts).analytics =
          .counted 2 ((compilations.map Compilation.duration).sum / 2)
            (100 * compilations.countP Compilation.success / 2) := by
  have made : forgetful.newSession = .ok (.fresh (.count 1)) := rfl
  have standard : ∀ attempt ∈ unevenAttempts,
      attempt.compiler.registry = StandardPhase.all := by
    simp [unevenAttempts, forgetful]
  rcases calls_sum_up made standard (by simp [unevenAttempts]) with
    ⟨compilations, _, answers, totals, _⟩
  exact ⟨made, compilations, answers, totals⟩

end Session

end SentenceGraph
