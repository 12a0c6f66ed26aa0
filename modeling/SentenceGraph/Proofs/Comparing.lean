import SentenceGraph.Proofs.Completing

/-!
# Two calls side by side

What a call comes to is settled by the results of its run. So two calls in the same session and at
the same time, of whatever compilers and requests, agree where their runs agree on the results of
all phases but the last one: the output is the only thing in which they differ.
-/

namespace SentenceGraph

variable {R : Type} [Quantity R]

/-- Two compilations that come to the same, except that the second one has changed the output. -/
structure Compilation.Agrees (compilation other : Compilation R)
    (change : Rendered R → Rendered R) : Prop where
  success : other.success = compilation.success
  error : other.error = compilation.error
  duration : other.duration = compilation.duration
  results : ∀ id, id ≠ "output" → other.results.lookup id = compilation.results.lookup id
  output : other.output = compilation.output.map change

/-- Two calls that leave the same session, and end in the same fault or in answers that agree. -/
structure Call.Agrees (call other : Call R) (change : Rendered R → Rendered R) : Prop where
  session : other.session = call.session
  answer :
    (∃ fault, call.answer = .error fault ∧ other.answer = .error fault) ∨
      ∃ compilation otherCompilation, call.answer = .ok compilation ∧
        other.answer = .ok otherCompilation ∧ compilation.Agrees otherCompilation change

namespace Compiler

variable {compiler other : Compiler R} {request otherRequest : Request} {session : Session R}
  {clock : Clock R} {run otherRun : Run (Artifact R)} {graph : SemanticGraph R}
  {rendered : Rendered R} {semanticSummary summary otherSummary : String}

theorem agrees_of_failure {message : String}
    (ran : compiler.runPipeline request session clock = (run, some message))
    (otherRan : other.runPipeline otherRequest session clock = (run, some message))
    (change : Rendered R → Rendered R) :
    (compiler.compile request session clock).Agrees (other.compile otherRequest session clock)
      change := by
  cases recorded : session.record (duration clock) false with
  | error fault =>
      simp only [duration] at recorded
      simp only [compile, ran, otherRan, finishFailed, recorded]
      exact ⟨rfl, Or.inl ⟨fault, rfl, rfl⟩⟩
  | ok next =>
      rw [compile_of_failure ran recorded, compile_of_failure otherRan recorded]
      exact ⟨rfl, Or.inr ⟨_, _, rfl, rfl, rfl, rfl, rfl, fun _ _ => rfl, rfl⟩⟩

/-- Complete runs with the same semantic graph lead to calls that agree, whatever the outputs. -/
theorem agrees_of_success (change : Rendered R → Rendered R)
    (ran : compiler.runPipeline request session clock = (run, none))
    (otherRan : other.runPipeline otherRequest session clock = (otherRun, none))
    (semantics : run.result? "semantic" = some ⟨true, some (.semantics graph), semanticSummary⟩)
    (output : run.result? "output" = some ⟨true, some (.rendered rendered), summary⟩)
    (otherOutput : otherRun.result? "output" =
      some ⟨true, some (.rendered (change rendered)), otherSummary⟩)
    (results : ∀ id, id ≠ "output" → otherRun.results.lookup id = run.results.lookup id) :
    (compiler.compile request session clock).Agrees (other.compile otherRequest session clock)
      change := by
  have otherSemantics : otherRun.result? "semantic" =
      some ⟨true, some (.semantics graph), semanticSummary⟩ := by
    rw [Run.result?, results "semantic" (by decide)]
    exact semantics
  cases dated : milliseconds clock.now with
  | error fault =>
      rw [compile_of_undated ran semantics output dated,
        compile_of_undated otherRan otherSemantics otherOutput dated]
      exact ⟨rfl, Or.inl ⟨fault, rfl, rfl⟩⟩
  | ok time =>
      cases recorded : (session.remember (graph.contextEntry time)).record (duration clock)
          (Report.isConfident graph) with
      | error fault =>
          rw [compile_of_unrecorded ran semantics output dated recorded,
            compile_of_unrecorded otherRan otherSemantics otherOutput dated recorded]
          exact ⟨rfl, Or.inl ⟨fault, rfl, rfl⟩⟩
      | ok next =>
          rw [compile_of_success ran semantics output dated recorded,
            compile_of_success otherRan otherSemantics otherOutput dated recorded]
          exact ⟨rfl, Or.inr ⟨_, _, rfl, rfl, rfl, rfl, rfl, results, rfl⟩⟩

end Compiler

end SentenceGraph
