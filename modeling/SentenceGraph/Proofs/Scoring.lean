import SentenceGraph.Proofs.Completing

/-!
# Confidence of compiled sentences

A document reports an error where the confidence of its sentence is below one half, and such a
compilation is not counted as a success. No sentence is read with so little confidence, so that
neither happens to a sentence that was compiled.
-/

namespace SentenceGraph

variable {tree : ParseTree ℚ} {tokens : List (Token ℚ)} {memory : ContextMemory ℚ}

namespace Report

theorem isConfident_ofTree : isConfident (.ofTree tree tokens memory) = true := by
  apply decide_eq_true
  exact (SemanticGraph.overallConfidence_between tree tokens memory).1

theorem not_isDoubtful_ofTree : isDoubtful (.ofTree tree tokens memory) = false := by
  apply decide_eq_false
  apply not_lt.mpr
  exact (SemanticGraph.overallConfidence_between tree tokens memory).1

/-- The document of a sentence reports no error. -/
theorem errorHandling_ofTree :
    errorHandling (.ofTree tree tokens memory) =
      .object [("has_errors", .bool false), ("error_reason", .null), ("suggestions", .list [])] := by
  simp [errorHandling, not_isDoubtful_ofTree]

theorem member?_errorHandling {R : Type} [Quantity R] (report : Report R) :
    Value.member? report.document "error_handling" = some (errorHandling report.graph) := by
  rfl

end Report

namespace Compiler

/-- Every reading of a sentence has a confidence from 0.5 to 0.85. So with the standard phases, a
compilation that answers with a success has a document without errors, and is counted as one. -/
theorem compile_is_confident :
    (∀ (tree : ParseTree ℚ) (tokens : List (Token ℚ)) (memory : ContextMemory ℚ),
      0.5 ≤ (SemanticGraph.ofTree tree tokens memory).overallConfidence ∧
        (SemanticGraph.ofTree tree tokens memory).overallConfidence ≤ 0.85) ∧
    ∀ (compiler : Compiler ℚ) (request : Request) (session : Session ℚ) (clock : Clock ℚ)
      (compilation : Compilation ℚ), compiler.registry = StandardPhase.all →
      (compiler.compile request session clock).answer = .ok compilation →
      compilation.success = true →
        (∃ rendered, compilation.output = some rendered ∧
          Value.member? rendered.document "error_handling" =
            some (.object
              [("has_errors", .bool false), ("error_reason", .null), ("suggestions", .list [])])) ∧
        session.analytics.record compilation.duration true =
          .ok (compiler.compile request session clock).session.analytics := by
  refine ⟨SemanticGraph.overallConfidence_between, ?_⟩
  intro compiler request session clock compilation standard answered success
  rcases succeeded_of_answer standard answered success with
    ⟨reading, rendered, elapsed, _, written, _, output, ended⟩
  constructor
  · refine ⟨rendered, output, ?_⟩
    rw [← written, Reading.rendered, Report.member?_errorHandling, Reading.report, Reading.graph,
      Report.errorHandling_ofTree]
  · have totals := ended.totals
    rw [Reading.graph, Report.isConfident_ofTree] at totals
    exact totals

theorem compile_is_confident_forgetful :
    ∃ compilation : Compilation ℚ,
      (Session.forgetful.compile { text := "dogs run" } (.fresh .default)
        ⟨0, 0, 1, 0, ""⟩).answer = .ok compilation ∧
      ∃ rendered, compilation.output = some rendered ∧
        Value.member? rendered.document "error_handling" =
          some (.object
            [("has_errors", .bool false), ("error_reason", .null), ("suggestions", .list [])]) := by
  rcases exists_milliseconds 0 with ⟨time, dated⟩
  have counted : (Session.fresh .default : Session ℚ).analytics = .counted 0 0.0 100.0 := rfl
  have read : ∃ tokens, Session.forgetful.tokens "dogs run" = .ok tokens := ⟨_, rfl⟩
  rcases read with ⟨tokens, read⟩
  rcases exists_success { text := "dogs run" } ⟨0, 0, 1, 0, ""⟩ rfl counted
    (Quantity.counts_exact _) dated rfl read with ⟨compilation, answer, success, _⟩
  refine ⟨compilation, answer, ?_⟩
  exact (compile_is_confident.2 Session.forgetful { text := "dogs run" } (.fresh .default)
    ⟨0, 0, 1, 0, ""⟩ compilation rfl answer success).1

end Compiler

end SentenceGraph
