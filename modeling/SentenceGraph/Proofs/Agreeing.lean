import SentenceGraph.Proofs.Running

/-!
# What runs agree on

What a phase computes is settled by the phases below it: by the request, the context and what the
phases that it depends on compute, down to those that depend on nothing. No plan and no run is
mentioned there. Every result of a run is computed in this sense, and a phase computes one result at
most, so two runs that both got to a phase have the same result of it, whatever else they were asked
for, in whichever order they went, and wherever they stopped.
-/

namespace SentenceGraph

variable {Data Context : Type} {phase : Phase Data Context} {registry : Registry Data Context}
  {request : Request} {inputs others : List (String × Data)} {context : Context}
  {result other : PhaseResult Data} {id : String}

theorem Phase.Reports.eq_ofOutcome (reports : phase.Reports request inputs context result) :
    result = .ofOutcome (phase.process request inputs context) := by
  cases reports with
  | produced ended =>
      rw [ended]
      rfl
  | refused ended =>
      rw [ended]
      rfl
  | brokeDown ended =>
      rw [ended]
      rfl

namespace Registry

/-- The result of a phase that is handed what the phases below it compute. -/
inductive Computes (registry : Registry Data Context) (request : Request) (context : Context) :
    String → PhaseResult Data → Prop where
  | process {id : String} {phase : Phase Data Context} {inputs : List (String × Data)}
      {summaries : String × Data → String} {result : PhaseResult Data}
      (found : registry.find? id = some phase) (names : inputs.map Prod.fst = phase.dependsOn)
      (given : ∀ input ∈ inputs,
        Computes registry request context input.1 ⟨true, some input.2, summaries input⟩)
      (reports : phase.Reports request inputs context result) :
      Computes registry request context id result

/-- Inputs of the same names are the same if the data under each name are. -/
theorem inputs_unique (names : inputs.map Prod.fst = others.map Prod.fst)
    (same : ∀ input ∈ inputs, ∀ other ∈ others, input.1 = other.1 → input.2 = other.2) :
    inputs = others := by
  induction inputs generalizing others with
  | nil =>
      symm
      simpa using names
  | cons input inputs inductionHypothesis =>
      cases others with
      | nil => contradiction
      | cons other others =>
          simp only [List.map_cons, List.cons.injEq] at names
          rcases names with ⟨sameName, names⟩
          have sameInput : input = other := by
            apply Prod.ext sameName
            apply same
            · simp
            · simp
            · exact sameName
          have sameRest : inputs = others := by
            apply inductionHypothesis names
            intro later later_mem rival rival_mem
            apply same
            · exact List.mem_cons_of_mem _ later_mem
            · exact List.mem_cons_of_mem _ rival_mem
          rw [sameInput, sameRest]

/-- A phase computes one result at most. The induction is on the phases below it. -/
theorem Computes.unique (computes : registry.Computes request context id result)
    (otherwise : registry.Computes request context id other) : result = other := by
  induction computes generalizing other with
  | @process id phase inputs summaries result found names given reports inductionHypothesis =>
      cases otherwise with
      | @process _ rival rivalInputs rivalSummaries _ rivalFound rivalNames rivalGiven
          rivalReports =>
          obtain rfl : phase = rival := by
            apply Option.some.inj
            rw [← found, ← rivalFound]
          obtain rfl : inputs = rivalInputs := by
            apply inputs_unique
            · rw [names, rivalNames]
            · intro input input_mem rivalInput rival_mem sameName
              have computed := rivalGiven rivalInput rival_mem
              rw [← sameName] at computed
              have sameResult := inductionHypothesis input input_mem computed
              simp only [PhaseResult.mk.injEq, Option.some.injEq] at sameResult
              exact sameResult.2.1
          rw [reports.eq_ofOutcome, rivalReports.eq_ofOutcome]

/-- A phase that was run on what earlier phases computed computes its result. -/
theorem Answers.computes {run : Run Data}
    (answers : registry.Answers request context run.Produced id result)
    (earlier : ∀ needed, registry.Needs id needed → ∀ result, (needed, result) ∈ run.results →
      registry.Computes request context needed result) :
    registry.Computes request context id result := by
  rcases answers with ⟨phase, inputs, found, names, supplied, reports⟩
  have computed : ∀ input : String × Data, ∃ summary, input ∈ inputs →
      registry.Computes request context input.1 ⟨true, some input.2, summary⟩ := by
    intro input
    by_cases input_mem : input ∈ inputs
    · rcases supplied input input_mem with ⟨⟨success, data, summary⟩, result_mem, rfl, rfl⟩
      refine ⟨summary, fun _ => ?_⟩
      apply earlier input.1 ?_ _ result_mem
      refine ⟨phase, found, ?_⟩
      rw [← names]
      exact List.mem_map_of_mem input_mem
    · exact ⟨"", fun impossible => absurd impossible input_mem⟩
  choose summaries given using computed
  exact .process found names given reports

/-- Every result of a run is what its phase computes. The induction is along the plan, which lists
the phases below a phase before it. -/
theorem computes_of_course {run : Run Data} {order : List String} {complete : List PhaseStatus}
    {failed : Option PhaseStatus} {pending : List PhaseStatus}
    (scheduled : registry.Scheduled order)
    (course : run.Course registry request context run.Produced complete failed pending)
    (id_mem : id ∈ order) (result_mem : (id, result) ∈ run.results) :
    registry.Computes request context id result := by
  induction scheduled generalizing id result with
  | nil => simp at id_mem
  | @snoc order last scheduled fresh registered ready inductionHypothesis =>
      rcases List.mem_append.mp id_mem with earlier | here
      · exact inductionHypothesis earlier result_mem
      · rw [List.mem_singleton] at here
        subst here
        apply (course.answers _ result_mem).computes
        intro needed needs result result_mem
        exact inductionHypothesis (ready needed needs) result_mem

theorem exists_run_computes (request : Request) (context : Context)
    {requested order : List String} (planned : registry.plan requested = .ok order) :
    ∃ run, registry.run request context requested = .ok run ∧
      ∀ entry ∈ run.results, registry.Computes request context entry.1 entry.2 := by
  rcases exists_run request context planned with
    ⟨run, ran, places, complete, failed, pending, course⟩
  refine ⟨run, ran, ?_⟩
  intro entry entry_mem
  apply computes_of_course (extends_of_plan planned).scheduled course
  · -- Only planned phases have results.
    have ids : run.phases.map PhaseStatus.id = order := Run.ids_of_places places
    have started : entry.1 ∈ run.results.map Prod.fst := List.mem_map_of_mem entry_mem
    rw [course.ids_results] at started
    rw [← ids, course.phases, ← List.append_assoc, List.map_append]
    exact List.mem_append_left _ started
  · exact entry_mem

/-- Two runs for any requests that can be planned agree on every phase that both of them ran. -/
theorem runs_agree (registry : Registry Data Context) (request : Request) (context : Context)
    {requested wanted order sequence : List String} (planned : registry.plan requested = .ok order)
    (plannedWanted : registry.plan wanted = .ok sequence) :
    ∃ first second, registry.run request context requested = .ok first ∧
      registry.run request context wanted = .ok second ∧
        ∀ id result other, (id, result) ∈ first.results → (id, other) ∈ second.results →
          result = other := by
  rcases exists_run_computes request context planned with ⟨first, ranFirst, firstComputes⟩
  rcases exists_run_computes request context plannedWanted with ⟨second, ranSecond, secondComputes⟩
  refine ⟨first, second, ranFirst, ranSecond, ?_⟩
  intro id result other first_mem second_mem
  have computes := firstComputes _ first_mem
  have otherwise := secondComputes _ second_mem
  exact computes.unique otherwise

/-- A root with two branches, of which one breaks down. -/
def forked : Registry String Unit :=
  [{ id := "root", process := fun request _ _ => .ok (.produced request.text "grown") },
    { id := "stem", dependsOn := ["root"],
      process := fun _ inputs _ => .ok (.produced (",".intercalate (inputs.map Prod.snd)) "") },
    { id := "thorn", dependsOn := ["root"], process := fun _ _ _ => .error (.crashed "torn") }]

theorem runs_agree_forked :
    forked.plan ["stem", "thorn"] = .ok ["root", "stem", "thorn"] ∧
      forked.plan ["thorn", "stem"] = .ok ["root", "thorn", "stem"] ∧
        ∃ first second, forked.run { text := "seed" } () ["stem", "thorn"] = .ok first ∧
          forked.run { text := "seed" } () ["thorn", "stem"] = .ok second ∧
            ∀ id result other, (id, result) ∈ first.results → (id, other) ∈ second.results →
              result = other := by
  have planned : forked.plan ["stem", "thorn"] = .ok ["root", "stem", "thorn"] := by cbv
  have reversed : forked.plan ["thorn", "stem"] = .ok ["root", "thorn", "stem"] := by cbv
  exact ⟨planned, reversed, runs_agree forked { text := "seed" } () planned reversed⟩

end Registry

end SentenceGraph
