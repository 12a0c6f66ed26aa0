import Mathlib.Data.List.Forall2
import SentenceGraph.Phase.Run
import SentenceGraph.Proofs.Firsts
import SentenceGraph.Proofs.Planning

/-!
# What runs are

A run of planned phases always comes to an end with a report. It completes phases in the order of
the plan until one refuses or breaks down, and leaves the phases after that one pending. Its results
and its events are those of the phases that it started, and each of these was given exactly the
results of the phases that it depends on.

The lookup of these results cannot fail: a plan lists a phase after its needs (`Runnable`), and the
results so far are those of all phases before it, since the run stops at the first failure.
-/

namespace SentenceGraph

open Fallible

variable {Data Context : Type}

/-- How a phase ends, and the result that reports it. -/
inductive Phase.Reports (phase : Phase Data Context) (request : Request)
    (inputs : List (String × Data)) (context : Context) : PhaseResult Data → Prop where
  | produced {data : Data} {summary : String}
      (ended : phase.process request inputs context = .ok (.produced data summary)) :
      Reports phase request inputs context ⟨true, some data, summary⟩
  | refused {message : String} {leftover : Option Data}
      (ended : phase.process request inputs context = .ok (.refused message leftover)) :
      Reports phase request inputs context ⟨false, leftover, message⟩
  | brokeDown {fault : Fault} (ended : phase.process request inputs context = .error fault) :
      Reports phase request inputs context ⟨false, none, "error: " ++ fault.message⟩

theorem Phase.reports_ofOutcome (phase : Phase Data Context) (request : Request)
    (inputs : List (String × Data)) (context : Context) :
    phase.Reports request inputs context (.ofOutcome (phase.process request inputs context)) := by
  cases ended : phase.process request inputs context with
  | error fault => exact .brokeDown ended
  | ok outcome =>
      cases outcome with
      | produced data summary => exact .produced ended
      | refused message leftover => exact .refused ended

theorem ofOutcome_success {outcome : Except Fault (Outcome Data)}
    (success : (PhaseResult.ofOutcome outcome).success = true) :
    ∃ data summary, outcome = .ok (.produced data summary) := by
  cases outcome with
  | error fault => contradiction
  | ok outcome =>
      cases outcome with
      | produced data summary => exact ⟨data, summary, rfl⟩
      | refused message leftover => contradiction

/-- The events of a phase that was run. -/
def PhaseStatus.transitions (status : PhaseStatus) : List PhaseStatus :=
  [{ status with status := .processing, details := "" }, status]

/-- Where a phase stands in a schedule, and how it is called there. -/
def PhaseStatus.place (status : PhaseStatus) : Option Nat × String × Option String :=
  (status.position, status.id, some status.name)

/-- A phase of a run produced some data. -/
def Run.Produced (run : Run Data) (id : String) (data : Data) : Prop :=
  ∃ result, (id, result) ∈ run.results ∧ result.success = true ∧ result.data = some data

/-- A phase was run on the data of exactly the phases that it depends on, with this result. -/
def Registry.Answers (registry : Registry Data Context) (request : Request) (context : Context)
    (supplied : String → Data → Prop) (id : String) (result : PhaseResult Data) : Prop :=
  ∃ phase inputs, registry.find? id = some phase ∧ inputs.map Prod.fst = phase.dependsOn ∧
    (∀ input ∈ inputs, supplied input.1 input.2) ∧ phase.Reports request inputs context result

/-- A phase that was run ended in a status, with a result under its id. -/
structure Registry.Reported (registry : Registry Data Context) (request : Request)
    (context : Context) (supplied : String → Data → Prop) (status : PhaseStatus)
    (entry : String × PhaseResult Data) : Prop where
  id : entry.1 = status.id
  details : entry.2.message = status.details
  outcome : entry.2.success = true ↔ status.status = .complete
  answers : registry.Answers request context supplied entry.1 entry.2

/-- The course of a run: phases that were completed, then at most one that failed, then those that
were not started. -/
structure Run.Course (registry : Registry Data Context) (request : Request) (context : Context)
    (supplied : String → Data → Prop) (run : Run Data) (complete : List PhaseStatus)
    (failed : Option PhaseStatus) (pending : List PhaseStatus) : Prop where
  phases : run.phases = complete ++ (failed.toList ++ pending)
  stopped : failed = none → pending = []
  isComplete : ∀ status ∈ complete, status.status = .complete
  isFailed : ∀ status ∈ failed, status.status = .failed
  isPending : ∀ status ∈ pending, status.status = .pending ∧ status.details = ""
  events : run.events = (complete ++ failed.toList).flatMap PhaseStatus.transitions
  results :
    List.Forall₂ (registry.Reported request context supplied) (complete ++ failed.toList)
      run.results

variable {registry : Registry Data Context} {request : Request} {context : Context}

theorem exists_reported {supplied : String → Data → Prop} {started : List PhaseStatus}
    {results : List (String × PhaseResult Data)} {entry : String × PhaseResult Data}
    (reports : List.Forall₂ (registry.Reported request context supplied) started results)
    (entry_mem : entry ∈ results) :
    ∃ status ∈ started, registry.Reported request context supplied status entry := by
  induction reports with
  | nil => simp at entry_mem
  | @cons status _ _ _ reported _ inductionHypothesis =>
      rcases List.mem_cons.mp entry_mem with rfl | later
      · exact ⟨status, by simp, reported⟩
      · rcases inductionHypothesis later with ⟨other, other_mem, otherReported⟩
        exact ⟨other, List.mem_cons_of_mem _ other_mem, otherReported⟩

namespace Run.Course

variable {supplied : String → Data → Prop} {run : Run Data} {complete pending : List PhaseStatus}

theorem ids_results {failed : Option PhaseStatus}
    (course : run.Course registry request context supplied complete failed pending) :
    run.results.map Prod.fst = (complete ++ failed.toList).map PhaseStatus.id := by
  rw [← List.forall₂_eq_eq_eq, List.forall₂_map_left_iff, List.forall₂_map_right_iff]
  exact course.results.flip.imp fun entry status reported => reported.id

theorem answers {failed : Option PhaseStatus}
    (course : run.Course registry request context supplied complete failed pending) :
    ∀ entry ∈ run.results, registry.Answers request context supplied entry.1 entry.2 := by
  intro entry entry_mem
  rcases exists_reported course.results entry_mem with ⟨status, _, reported⟩
  exact reported.answers

theorem exists_result {failed : Option PhaseStatus} {id : String}
    (course : run.Course registry request context supplied complete failed pending)
    (id_mem : id ∈ (complete ++ failed.toList).map PhaseStatus.id) :
    ∃ result, run.result? id = some result ∧ (id, result) ∈ run.results := by
  rw [← course.ids_results] at id_mem
  exact exists_lookup_of_mem id_mem

theorem success_of_unfailed
    (course : run.Course registry request context supplied complete none pending) :
    ∀ entry ∈ run.results, entry.2.success = true := by
  intro entry entry_mem
  rcases exists_reported course.results entry_mem with ⟨status, status_mem, reported⟩
  apply reported.outcome.mpr
  apply course.isComplete
  simpa using status_mem

theorem failure?_of_unfailed
    (course : run.Course registry request context supplied complete none pending) :
    run.failure? = none := by
  rw [failure?, List.find?_eq_none.mpr, Option.map_none]
  intro entry entry_mem
  simp [course.success_of_unfailed entry entry_mem]

/-- The failed phase of a run has the last result, which is the only one without success. -/
theorem exists_failure {failed : PhaseStatus}
    (course : run.Course registry request context supplied complete (some failed) pending) :
    ∃ earlier result, run.results = earlier ++ [(failed.id, result)] ∧
      (∀ entry ∈ earlier, entry.2.success = true) ∧ result.success = false ∧
        result.message = failed.details ∧ run.failure? = some result := by
  have results := course.results
  rw [Option.toList_some] at results
  have earlierReports := (List.forall₂_take_append _ _ _ results.flip).flip
  have lastReport := (List.forall₂_drop_append _ _ _ results.flip).flip
  rcases List.forall₂_cons_left_iff.mp lastReport with ⟨⟨id, result⟩, _, report, noMore, last⟩
  rcases report with ⟨rfl, details, outcome, _⟩
  have success : ∀ entry ∈ run.results.take complete.length, entry.2.success = true := by
    intro entry entry_mem
    rcases exists_reported earlierReports entry_mem with ⟨status, status_mem, reported⟩
    exact reported.outcome.mpr (course.isComplete status status_mem)
  rw [List.forall₂_nil_left_iff] at noMore
  have split : run.results = run.results.take complete.length ++ [(failed.id, result)] := by
    rw [← noMore, ← last, List.take_append_drop]
  have failure : result.success = false := by
    rw [← Bool.not_eq_true, outcome, course.isFailed failed rfl]
    decide
  refine ⟨_, result, split, success, failure, details, ?_⟩
  rw [failure?, split, List.find?_append, List.find?_eq_none.mpr, Option.none_or]
  · simp [failure]
  · intro entry entry_mem
    simp [success entry entry_mem]

end Run.Course

theorem Run.ids_of_places {run : Run Data} {order : List String}
    (places : run.phases.map PhaseStatus.place =
      order.zipIdx.map fun (id, index) =>
        (some (index + 1), id, (registry.find? id).map Phase.title)) :
    run.phases.map PhaseStatus.id = order := by
  have seconds := congrArg (List.map fun place => place.2.1) places
  simpa [PhaseStatus.place, Function.comp_def] using seconds

namespace Registry

theorem Answers.mono {supplied more : String → Data → Prop} {id : String}
    {result : PhaseResult Data} (answers : registry.Answers request context supplied id result)
    (included : ∀ id data, supplied id data → more id data) :
    registry.Answers request context more id result := by
  rcases answers with ⟨phase, inputs, found, needs, given, reports⟩
  exact ⟨phase, inputs, found, needs, fun input input_mem => included _ _ (given input input_mem),
    reports⟩

/-- Statuses of phases that can be run one after the other, once some phases are done. -/
def Runnable (registry : Registry Data Context) (done : List String) : List PhaseStatus → Prop
  | [] => True
  | status :: rest =>
      (status.status = .pending ∧ status.details = "") ∧
        (∃ phase, registry.find? status.id = some phase ∧
          ∀ needed ∈ phase.dependsOn, needed ∈ done) ∧
          Runnable registry (status.id :: done) rest

theorem Runnable.pending {done : List String} {rest : List PhaseStatus}
    (runnable : registry.Runnable done rest) :
    ∀ status ∈ rest, status.status = .pending ∧ status.details = "" := by
  induction rest generalizing done with
  | nil => simp
  | cons first rest inductionHypothesis =>
      rcases runnable with ⟨fresh, _, others⟩
      intro status status_mem
      rcases List.mem_cons.mp status_mem with rfl | later
      · exact fresh
      · exact inductionHypothesis others status later

theorem get_eq_ok {id : String} {phase : Phase Data Context}
    (found : registry.find? id = some phase) : registry.get id = .ok phase := by
  rw [get, found]

/-- The needs of a phase are found among data that cover them. -/
theorem exists_inputs {data : List (String × Data)} {dependsOn : List String}
    (covered : ∀ needed ∈ dependsOn, needed ∈ data.map Prod.fst) :
    ∃ found, inputs data dependsOn = .ok found ∧ found.map Prod.fst = dependsOn ∧
      ∀ input ∈ found, data.lookup input.1 = some input.2 := by
  induction dependsOn with
  | nil => exact ⟨[], rfl, rfl, by simp⟩
  | cons needed dependsOn inductionHypothesis =>
      rcases inductionHypothesis (fun other other_mem =>
        covered other (List.mem_cons_of_mem _ other_mem)) with ⟨found, others, names, given⟩
      rcases exists_lookup_of_mem (covered needed (by simp)) with ⟨input, here, _⟩
      refine ⟨(needed, input) :: found, ?_, by simp [names], ?_⟩
      · rw [inputs, List.mapM_cons, here]
        exact bind_eq_ok_iff.mpr ⟨_, rfl, bind_eq_ok_iff.mpr ⟨_, others, rfl⟩⟩
      · intro other other_mem
        rcases List.mem_cons.mp other_mem with rfl | later
        · exact here
        · exact given other later

/-- A completed phase before the course of a run: what it produced is at hand from then on. -/
theorem course_after {data : List (String × Data)} {status : PhaseStatus} {produced : Data}
    {summary : String} {later : Run Data} {complete : List PhaseStatus}
    {failed : Option PhaseStatus} {pending : List PhaseStatus}
    (isComplete : status.status = .complete) (details : status.details = summary)
    (answers : registry.Answers request context (fun id input => data.lookup id = some input)
      status.id ⟨true, some produced, summary⟩)
    (course : later.Course registry request context
      (fun id input => ((status.id, produced) :: data).lookup id = some input ∨
        later.Produced id input) complete failed pending) :
    (Run.after status ⟨true, some produced, summary⟩ later).Course registry request context
      (fun id input => data.lookup id = some input ∨
        (Run.after status ⟨true, some produced, summary⟩ later).Produced id input)
      (status :: complete) failed pending := by
  have kept : ∀ id input, ((status.id, produced) :: data).lookup id = some input ∨
      later.Produced id input → data.lookup id = some input ∨
        (Run.after status ⟨true, some produced, summary⟩ later).Produced id input := by
    rintro id input (atHand | ⟨result, result_mem, success, gives⟩)
    · rw [List.lookup_cons] at atHand
      split at atHand
      · rename_i same
        rw [beq_iff_eq] at same
        subst same
        exact Or.inr ⟨⟨true, some produced, summary⟩, List.mem_cons_self, rfl, atHand⟩
      · exact Or.inl atHand
    · exact Or.inr ⟨result, List.mem_cons_of_mem _ result_mem, success, gives⟩
  constructor
  · rw [Run.after, course.phases, List.cons_append]
  · exact course.stopped
  · simpa [isComplete] using course.isComplete
  · exact course.isFailed
  · exact course.isPending
  · rw [Run.after, course.events]
    rfl
  · refine .cons ⟨rfl, details.symm, by simp [isComplete], ?_⟩ (course.results.imp ?_)
    · exact answers.mono fun id input atHand => Or.inl atHand
    · rintro earlier entry ⟨sameId, sameDetails, outcome, others⟩
      exact ⟨sameId, sameDetails, outcome, others.mono kept⟩

/-- A failed phase ends a run. -/
theorem course_failed {data : List (String × Data)} {status : PhaseStatus}
    {result : PhaseResult Data} {pending : List PhaseStatus}
    (isFailed : status.status = .failed) (details : status.details = result.message)
    (failure : result.success = false)
    (isPending : ∀ status ∈ pending, status.status = .pending ∧ status.details = "")
    (answers : registry.Answers request context (fun id input => data.lookup id = some input)
      status.id result) :
    (Run.after status result { phases := pending }).Course registry request context
      (fun id input => data.lookup id = some input ∨
        (Run.after status result { phases := pending }).Produced id input)
      [] (some status) pending := by
  constructor
  · rfl
  · simp
  · simp
  · simpa using isFailed
  · exact isPending
  · rfl
  · refine .cons ⟨rfl, details.symm, by simp [isFailed, failure], ?_⟩ .nil
    exact answers.mono fun id input atHand => Or.inl atHand

theorem runFrom_produced {data given : List (String × Data)} {status : PhaseStatus}
    {rest : List PhaseStatus} {phase : Phase Data Context} {produced : Data} {summary : String}
    {later : Run Data} (found : registry.find? status.id = some phase)
    (supplied : inputs data phase.dependsOn = .ok given)
    (ended : phase.process request given context = .ok (.produced produced summary))
    (others : registry.runFrom request context ((status.id, produced) :: data) rest = .ok later) :
    registry.runFrom request context data (status :: rest) =
      .ok (.after { status with status := .complete, details := summary }
        ⟨true, some produced, summary⟩ later) := by
  simp only [runFrom, get_eq_ok found, supplied, ended, others, bind, Except.bind]
  rfl

theorem runFrom_failed {data given : List (String × Data)} {status : PhaseStatus}
    {rest : List PhaseStatus} {phase : Phase Data Context}
    (found : registry.find? status.id = some phase)
    (supplied : inputs data phase.dependsOn = .ok given)
    (failure : (PhaseResult.ofOutcome (phase.process request given context)).success = false) :
    registry.runFrom request context data (status :: rest) =
      .ok (.after
        { status with
          status := .failed
          details := (PhaseResult.ofOutcome (phase.process request given context)).message }
        (.ofOutcome (phase.process request given context)) { phases := rest }) := by
  simp only [runFrom, get_eq_ok found, supplied, bind, Except.bind]
  split
  · rename_i produced summary ended
    rw [ended] at failure
    contradiction
  · rfl

/-- Scheduled phases run to their end. -/
theorem exists_course (request : Request) (context : Context) (data : List (String × Data))
    {scheduled : List PhaseStatus} (runnable : registry.Runnable (data.map Prod.fst) scheduled) :
    ∃ run, registry.runFrom request context data scheduled = .ok run ∧
      run.phases.map PhaseStatus.place = scheduled.map PhaseStatus.place ∧
        ∃ complete failed pending,
          run.Course registry request context
            (fun id input => data.lookup id = some input ∨ run.Produced id input)
            complete failed pending := by
  induction scheduled generalizing data with
  | nil =>
      exact ⟨{}, rfl, rfl, [], none, [], rfl, fun _ => rfl, by simp, by simp, by simp, rfl, .nil⟩
  | cons status rest inductionHypothesis =>
      rcases runnable with ⟨_, ⟨phase, found, ready⟩, others⟩
      rcases exists_inputs ready with ⟨given, inputsFound, names, supplied⟩
      have answers : registry.Answers request context (fun id input => data.lookup id = some input)
          status.id (.ofOutcome (phase.process request given context)) :=
        ⟨phase, given, found, names, supplied, phase.reports_ofOutcome request given context⟩
      cases success : (PhaseResult.ofOutcome (phase.process request given context)).success with
      | false =>
          exact ⟨_, runFrom_failed found inputsFound success, rfl, [], _, rest,
            course_failed rfl rfl success others.pending answers⟩
      | true =>
          rcases ofOutcome_success success with ⟨produced, summary, ended⟩
          rw [ended] at answers
          rcases inductionHypothesis ((status.id, produced) :: data) others with
            ⟨later, laterRun, places, complete, failed, pending, course⟩
          refine ⟨_, runFrom_produced found inputsFound ended laterRun, ?_, _ :: complete, failed,
            pending, course_after rfl rfl answers course⟩
          rw [Run.after, List.map_cons, List.map_cons, places]
          rfl

/-- A schedule follows its plan, and its phases can be run in that order. The induction is on the
part of the plan that is still to be scheduled. -/
theorem exists_runnable (before done : List String) {rest : List String}
    (scheduled : registry.Scheduled (before ++ rest)) (covered : ∀ id ∈ before, id ∈ done) :
    ∃ statuses,
      ((rest.zipIdx before.length).mapM fun (id, index) => registry.initialStatus id index) =
          .ok statuses ∧
        (statuses.map PhaseStatus.place =
          (rest.zipIdx before.length).map fun (id, index) =>
            (some (index + 1), id, (registry.find? id).map Phase.title)) ∧
          registry.Runnable done statuses := by
  induction rest generalizing before done with
  | nil => exact ⟨[], rfl, rfl, trivial⟩
  | cons id rest inductionHypothesis =>
      have registered : id ∈ registry.ids := scheduled.mem_ids (by simp)
      rcases exists_find?_of_mem_ids registered with ⟨phase, found⟩
      have covered' : ∀ other ∈ before ++ [id], other ∈ id :: done := by
        intro other other_mem
        rcases List.mem_append.mp other_mem with earlier | last
        · apply List.mem_cons_of_mem
          exact covered other earlier
        · rw [List.mem_singleton] at last
          simp [last]
      rcases inductionHypothesis (before ++ [id]) (id :: done) (by simpa using scheduled)
        covered' with ⟨statuses, others, places, runnable⟩
      rw [List.length_append, List.length_singleton] at others places
      have here : registry.initialStatus id before.length =
          .ok { position := some (before.length + 1), id, name := phase.title } := by
        rw [initialStatus, get_eq_ok found]
        rfl
      refine ⟨{ position := some (before.length + 1), id, name := phase.title } :: statuses, ?_, ?_,
        ⟨rfl, rfl⟩, ⟨phase, found, ?_⟩, runnable⟩
      · rw [List.zipIdx_cons, List.mapM_cons]
        exact bind_eq_ok_iff.mpr ⟨_, here, bind_eq_ok_iff.mpr ⟨_, others, rfl⟩⟩
      · simp only [List.zipIdx_cons, List.map_cons, places, found, Option.map_some]
        rfl
      · intro needed needed_mem
        exact covered needed (scheduled.needed_before rfl ⟨phase, found, needed_mem⟩)

theorem exists_run (request : Request) (context : Context) {requested order : List String}
    (planned : registry.plan requested = .ok order) :
    ∃ run, registry.run request context requested = .ok run ∧
      (run.phases.map PhaseStatus.place =
        order.zipIdx.map fun (id, index) =>
          (some (index + 1), id, (registry.find? id).map Phase.title)) ∧
        ∃ complete failed pending,
          run.Course registry request context run.Produced complete failed pending := by
  rcases exists_runnable [] [] (extends_of_plan planned).scheduled (by simp) with
    ⟨statuses, scheduled, places, runnable⟩
  rcases exists_course request context [] runnable with
    ⟨run, finished, samePlaces, complete, failed, pending, course⟩
  refine ⟨run, ?_, samePlaces.trans places, complete, failed, pending, ?_⟩
  · rw [Registry.run, schedule, planned]
    exact bind_eq_ok_iff.mpr ⟨statuses, scheduled, finished⟩
  · simpa using course

/-- A run of a plan numbers its phases in the order of the plan, completes some of them, and has at
most one failure, after which nothing is started. Its results and events are those of the phases
that were started, in order. Each of these got the request and what the phases that it depends on
produced in the same run; its details are the message of its result. -/
theorem run_follows_plan (registry : Registry Data Context) (request : Request) (context : Context)
    {requested order : List String} (planned : registry.plan requested = .ok order) :
    ∃ run complete failed pending,
      registry.run request context requested = .ok run ∧
      (run.phases.map PhaseStatus.place =
        order.zipIdx.map fun (id, index) =>
          (some (index + 1), id, (registry.find? id).map Phase.title)) ∧
      run.phases = complete ++ (Option.toList failed ++ pending) ∧
      (failed = none → pending = []) ∧
      (∀ status ∈ complete, status.status = .complete) ∧
      (∀ status ∈ failed, status.status = .failed) ∧
      (∀ status ∈ pending, status.status = .pending ∧ status.details = "") ∧
      run.events = (complete ++ failed.toList).flatMap PhaseStatus.transitions ∧
      run.results.map Prod.fst = (complete ++ failed.toList).map PhaseStatus.id ∧
      (run.results.map Prod.fst).Nodup ∧
      List.Forall₂
        (fun status (entry : String × PhaseResult Data) =>
          entry.2.message = status.details ∧ (entry.2.success = true ↔ status.status = .complete) ∧
            ∃ phase inputs, registry.find? status.id = some phase ∧
              inputs.map Prod.fst = phase.dependsOn ∧
                (∀ input ∈ inputs, run.Produced input.1 input.2) ∧
                  phase.Reports request inputs context entry.2)
        (complete ++ failed.toList) run.results := by
  rcases exists_run request context planned with
    ⟨run, ran, places, complete, failed, pending, course⟩
  have ids : run.phases.map PhaseStatus.id = order := Run.ids_of_places places
  have distinct : (run.phases.map PhaseStatus.id).Nodup :=
    ids ▸ (extends_of_plan planned).scheduled.nodup
  refine ⟨run, complete, failed, pending, ran, places, course.phases, course.stopped,
    course.isComplete, course.isFailed, course.isPending, course.events, course.ids_results, ?_, ?_⟩
  · rw [course.phases, ← List.append_assoc, List.map_append] at distinct
    rw [course.ids_results]
    exact (List.nodup_append.mp distinct).1
  · refine course.results.imp ?_
    rintro status ⟨id, result⟩ ⟨rfl, details, success, answers⟩
    exact ⟨details, success, answers⟩

/-- Three phases in a row, of which the second breaks down. -/
def brokenChain : Registry String Unit :=
  [{ id := "last", dependsOn := ["middle", "first", "middle"],
     process := fun _ _ _ => .ok (.produced "unreached" "") },
    { id := "middle", dependsOn := ["first"], process := fun _ _ _ => .error (.crashed "torn") },
    { id := "first", process := fun _ _ _ => .ok (.produced "begun" "one") }]

theorem run_brokenChain :
    brokenChain.plan ["last"] = .ok ["first", "middle", "last"] ∧
      ∃ run, brokenChain.run { text := "" } () ["last"] = .ok run ∧
        run.phases.map PhaseStatus.place =
          [(some 1, "first", some "first"), (some 2, "middle", some "middle"),
            (some 3, "last", some "last")] ∧ (run.results.map Prod.fst).Nodup := by
  have planned : brokenChain.plan ["last"] = .ok ["first", "middle", "last"] := by cbv
  rcases run_follows_plan brokenChain { text := "" } () planned with
    ⟨run, _, _, _, ran, places, _, _, _, _, _, _, _, distinct, _⟩
  refine ⟨planned, run, ran, ?_, distinct⟩
  rw [places]
  rfl

end Registry

end SentenceGraph
