import SentenceGraph.Phase.Scripted
import SentenceGraph.Proofs.Compiling

/-!
# Compilations without an answer

A failure of the run becomes part of the answer of a compilation. Other faults escape: a session of
its own needs a capacity that the settings may not give, and after a complete run the compiler reads
the time of day and the results of two phases, which may be replaced. No other fault escapes.
-/

namespace SentenceGraph

open Fallible

variable {R : Type} [Quantity R]

omit [Quantity R] in
theorem Artifact.eq_semantics_of_asSemantics {artifact : Artifact R} {member : String}
    {graph : SemanticGraph R} (read : artifact.asSemantics member = .ok graph) :
    artifact = .semantics graph := by
  cases artifact with
  | semantics found => rw [Except.ok.inj read]
  | _ => contradiction

namespace Compiler

/-- What a compilation in a session of its own answers. -/
def answerAlone (compiler : Compiler R) (request : Request) (clock : Clock R) :
    Except Fault (Compilation R) := do
  (← compiler.compileAlone request clock).answer

/-- No phase of a compilation fails, and two of them give these results. -/
def Yields (compiler : Compiler R) (request : Request) (session : Session R) (clock : Clock R)
    (semantics output : Artifact R) : Prop :=
  ∃ run, compiler.runPipeline request session clock = (run, none) ∧
    produced run "semantic" = .ok semantics ∧ produced run "output" = .ok output

/-- The faults that a compilation in a session of its own ends in. -/
inductive Escapes (compiler : Compiler R) (request : Request) (clock : Clock R) : Fault → Prop where
  | tooSmall (small : compiler.config.memorySize < 1) :
      Escapes compiler request clock
        (.capacityTooSmall (Decimal.integerText compiler.config.memorySize))
  | tooLarge (large : Capacity.greatest < compiler.config.memorySize) :
      Escapes compiler request clock .capacityTooLarge
  | unread {session : Session R} {semantics output : Artifact R} {fault : Fault}
      (made : compiler.newSession = .ok session)
      (yields : compiler.Yields request session clock semantics output)
      (unread : semantics.asSemantics "main_subject" = .error fault) :
      Escapes compiler request clock fault
  | undated {session : Session R} {graph : SemanticGraph R} {output : Artifact R} {fault : Fault}
      (made : compiler.newSession = .ok session)
      (yields : compiler.Yields request session clock (.semantics graph) output)
      (undated : milliseconds clock.now = .error fault) :
      Escapes compiler request clock fault
  | unrendered {session : Session R} {graph : SemanticGraph R} {output : Artifact R} {time : Int}
      {fault : Fault} (made : compiler.newSession = .ok session)
      (yields : compiler.Yields request session clock (.semantics graph) output)
      (dated : milliseconds clock.now = .ok time) (unrendered : asRendered output = .error fault) :
      Escapes compiler request clock fault

variable {compiler : Compiler R} {request : Request} {session : Session R} {clock : Clock R}
  {semantics output : Artifact R} {graph : SemanticGraph R} {fault : Fault}

theorem answerAlone_of_made (made : compiler.newSession = .ok session) :
    compiler.answerAlone request clock = (compiler.compile request session clock).answer := by
  rw [answerAlone, compileAlone, made]
  rfl

theorem answerAlone_of_unmade (unmade : compiler.newSession = .error fault) :
    compiler.answerAlone request clock = .error fault := by
  rw [answerAlone, compileAlone, unmade]
  rfl

theorem Yields.answer_of_unread (yields : compiler.Yields request session clock semantics output)
    (unread : semantics.asSemantics "main_subject" = .error fault) :
    (compiler.compile request session clock).answer = .error fault := by
  rcases yields with ⟨run, ran, semantic, output⟩
  simp only [compile, ran, finishComplete, semantic, output, unread, ok_bind, error_bind]

theorem Yields.answer_of_undated
    (yields : compiler.Yields request session clock (.semantics graph) output)
    (undated : milliseconds clock.now = .error fault) :
    (compiler.compile request session clock).answer = .error fault := by
  rcases yields with ⟨run, ran, semantic, output⟩
  simp only [compile, ran, finishComplete, semantic, output, Artifact.asSemantics, undated, ok_bind,
    error_bind]

/-- Once the sentence is remembered, only the rendering is missing. -/
theorem Yields.exists_answer_of_dated {time : Int}
    (yields : compiler.Yields request session clock (.semantics graph) output)
    (dated : milliseconds clock.now = .ok time) (new : session.analytics = .initial)
    (counts : Quantity.Counts R 1) :
    ∃ answered : Rendered R → Compilation R,
      (compiler.compile request session clock).answer = (asRendered output).map answered := by
  rcases yields with ⟨run, ran, semantic, output⟩
  have remembered : (session.remember (graph.contextEntry time)).analytics =
      .counted 0 0.0 100.0 := new
  rcases Session.exists_record remembered counts (duration clock) (Report.isConfident graph) with
    ⟨_, _, recorded⟩
  rw [duration] at recorded
  let answered (rendered : Rendered R) : Compilation R := {
    success := true
    format := .ofRequest request.format
    output := some rendered
    phases := run.phases
    results := run.results
    duration := duration clock }
  refine ⟨answered, ?_⟩
  simp only [compile, ran, finishComplete, semantic, output, Artifact.asSemantics, dated, recorded,
    ok_bind, pure_eq_ok]
  rfl

theorem answerAlone_of_escapes (counts : Quantity.Counts R 1)
    (escapes : compiler.Escapes request clock fault) :
    compiler.answerAlone request clock = .error fault := by
  cases escapes with
  | tooSmall small =>
      apply answerAlone_of_unmade
      rw [newSession, Capacity.ofInt, if_pos small]
      rfl
  | tooLarge large =>
      have notSmall : ¬compiler.config.memorySize < 1 := by
        unfold Capacity.greatest at large
        omega
      apply answerAlone_of_unmade
      rw [newSession, Capacity.ofInt, if_neg notSmall, if_pos large]
      rfl
  | unread made yields unread =>
      rw [answerAlone_of_made made]
      exact yields.answer_of_unread unread
  | undated made yields undated =>
      rw [answerAlone_of_made made]
      exact yields.answer_of_undated undated
  | unrendered made yields dated unrendered =>
      rcases yields.exists_answer_of_dated dated (analytics_of_newSession made) counts with
        ⟨answered, answer⟩
      rw [answerAlone_of_made made, answer, unrendered]
      rfl

omit [Quantity R] in
/-- A requested phase of a run without failure has a result for the compiler to read. -/
theorem exists_produced_eq_ok {order : List String} {run : Run (Artifact R)}
    {complete pending : List PhaseStatus} {id : String}
    (planned : compiler.registry.plan StandardPhase.pipeline = .ok order)
    (ids : run.phases.map PhaseStatus.id = order)
    (course : run.Course compiler.registry request (compiler.surroundings session clock)
      run.Produced complete none pending)
    (requested : id ∈ StandardPhase.pipeline) :
    ∃ artifact, produced run id = .ok artifact := by
  have reached : compiler.registry.Reaches StandardPhase.pipeline id :=
    ⟨id, requested, Relation.ReflTransGen.refl⟩
  have registered := (Registry.exists_plan_iff.mp ⟨order, planned⟩ id reached).1
  rcases Registry.exists_find?_of_mem_ids registered with ⟨phase, found⟩
  rcases exists_produced planned ids course requested found with ⟨artifact, summary, _, result, _⟩
  refine ⟨artifact, ?_⟩
  rw [produced, result]
  rfl

/-- A compilation in a new session answers, unless its run leaves results that are read in vain. -/
theorem exists_answer_or_yields (compiler : Compiler R) (request : Request) (clock : Clock R)
    (new : session.analytics = .initial) (counts : Quantity.Counts R 1) :
    (∃ compilation, (compiler.compile request session clock).answer = .ok compilation) ∨
      ∃ semantics output, compiler.Yields request session clock semantics output := by
  have counted : session.analytics = .counted 0 0.0 100.0 := new
  rcases Session.exists_record counted counts (duration clock) false with ⟨_, _, recorded⟩
  cases planned : compiler.registry.plan StandardPhase.pipeline with
  | error fault =>
      rcases compile_of_obstacle planned recorded with ⟨compilation, answer, _⟩
      exact Or.inl ⟨compilation, answer⟩
  | ok order =>
      rcases Registry.exists_run request (compiler.surroundings session clock) planned with
        ⟨run, ran, places, complete, failed, pending, course⟩
      have ids : run.phases.map PhaseStatus.id = order := Run.ids_of_places places
      cases failed with
      | some failed =>
          rcases compile_of_stopped planned ran ids course recorded with ⟨compilation, answer, _⟩
          exact Or.inl ⟨compilation, answer⟩
      | none =>
          have requested : "semantic" ∈ StandardPhase.pipeline ∧
              "output" ∈ StandardPhase.pipeline := by decide
          rcases exists_produced_eq_ok planned ids course requested.1 with ⟨semantics, semantic⟩
          rcases exists_produced_eq_ok planned ids course requested.2 with ⟨rendered, output⟩
          have piped : compiler.runPipeline request session clock = (run, none) := by
            rw [runPipeline_of_run ran, course.failure?_of_unfailed, Option.map_none]
          exact Or.inr ⟨semantics, rendered, run, piped, semantic, output⟩

theorem exists_answerAlone_or_escapes (compiler : Compiler R) (request : Request) (clock : Clock R)
    (counts : Quantity.Counts R 1) :
    (∃ compilation, compiler.answerAlone request clock = .ok compilation) ∨
      ∃ fault, compiler.Escapes request clock fault := by
  cases made : compiler.newSession with
  | error fault =>
      refine Or.inr ?_
      by_cases small : compiler.config.memorySize < 1
      · exact ⟨_, .tooSmall small⟩
      · by_cases large : Capacity.greatest < compiler.config.memorySize
        · exact ⟨_, .tooLarge large⟩
        · rw [newSession, Capacity.ofInt, if_neg small, if_neg large] at made
          contradiction
  | ok session =>
      have new := analytics_of_newSession made
      rw [answerAlone_of_made made]
      rcases exists_answer_or_yields compiler request clock new counts with
        answers | ⟨semantics, output, yields⟩
      · exact Or.inl answers
      · cases read : semantics.asSemantics "main_subject" with
        | error fault => exact Or.inr ⟨fault, .unread made yields read⟩
        | ok graph =>
            cases Artifact.eq_semantics_of_asSemantics read
            cases dated : milliseconds clock.now with
            | error fault => exact Or.inr ⟨fault, .undated made yields dated⟩
            | ok time =>
                cases rendered : asRendered output with
                | error fault => exact Or.inr ⟨fault, .unrendered made yields dated rendered⟩
                | ok rendering =>
                    rcases yields.exists_answer_of_dated dated new counts with ⟨answered, answer⟩
                    rw [rendered] at answer
                    exact Or.inl ⟨answered rendering, answer⟩

theorem counts_one : Quantity.Counts Float 1 := by
  intro count bound
  obtain rfl | rfl : count = 0 ∨ count = 1 := by omega
  · decide +kernel
  · decide +kernel

/-- A compilation in a session of its own ends in a fault if the settings give no capacity, or if no
phase fails but the result of the semantic or of the output phase or the time of day cannot be read.
In every other case it answers, whatever phases are registered. -/
theorem answerAlone_decides (compiler : Compiler Float) (request : Request) (clock : Clock Float) :
    (∀ fault, compiler.answerAlone request clock = .error fault ↔
      compiler.Escapes request clock fault) ∧
    ((∃ compilation, compiler.answerAlone request clock = .ok compilation) ↔
      ∀ fault, ¬compiler.Escapes request clock fault) := by
  have ends := exists_answerAlone_or_escapes compiler request clock counts_one
  constructor
  · intro fault
    constructor
    · intro answer
      rcases ends with ⟨compilation, answers⟩ | ⟨other, escapes⟩
      · rw [answer] at answers
        contradiction
      · have same := answerAlone_of_escapes counts_one escapes
        rw [answer] at same
        exact Except.error.inj same ▸ escapes
    · exact answerAlone_of_escapes counts_one
  · constructor
    · rintro ⟨compilation, answers⟩ fault escapes
      rw [answerAlone_of_escapes counts_one escapes] at answers
      contradiction
    · intro none
      rcases ends with answers | ⟨fault, escapes⟩
      · exact answers
      · exact absurd escapes (none fault)

/-- The standard phases, with one in place of the output phase that gives a text. -/
def withoutOutput : Registry (Artifact Float) (Surroundings Float) :=
  Registry.register StandardPhase.all (ScriptedPhase.phase { id := "output" })

/-- With an environment that asks for no memory, and with phases that all succeed without giving an
output, a fault takes the place of the answer. -/
theorem answerAlone_astray :
    (∃ config : Config Float, Config.ofEnvironment [("NLC_MEMORY_SIZE", "0")] = .ok config ∧
      let compiler : Compiler Float :=
        { config, service := fun _ => .crashed "torn", registry := StandardPhase.all }
      compiler.answerAlone { text := "a" } stopped = .error (.capacityTooSmall "0")) ∧
    ∃ config : Config Float, Config.ofEnvironment [("NLC_OFFLINE", "1")] = .ok config ∧
      let compiler : Compiler Float :=
        { config, service := fun _ => .crashed "torn", registry := withoutOutput }
      compiler.answerAlone { text := "a" } stopped = .error .wrongShape := by
  constructor
  · refine ⟨_, rfl, ?_⟩
    apply answerAlone_of_unmade
    rfl
  · refine ⟨_, rfl, ?_⟩
    intro compiler
    have made : compiler.newSession = .ok (.fresh .default) := rfl
    have planned : compiler.registry.plan StandardPhase.pipeline =
        .ok ["lexical", "syntax", "semantic", "ir", "optimize", "output"] := by
      change withoutOutput.plan StandardPhase.pipeline = _
      cbv
    rw [answerAlone_of_made made, compile, runPipeline, Registry.run, Registry.schedule, planned]
    rfl

end Compiler

end SentenceGraph
