import SentenceGraph.Proofs.FallingBack

/-!
# The language and the format of a document

A request names a language and a format for its document. Nothing but the last phase looks at them,
so requests for one text in one session come to the same, and leave the same session, whatever
languages and formats they name. The format is made out from its name three times: for the answer,
for the metadata of the document and for the rendering. All three agree, since the name of a format
stands for that format.
-/

namespace SentenceGraph

open Fallible

variable {R : Type} [Quantity R]

@[simp]
theorem Format.ofRequest_name (format : Format) : ofRequest (some format.name) = format := by
  cases format
  all_goals decide +kernel

/-- The document as a request wants it: with another language and another format in its metadata. -/
def Document.presentedFor (document : Document R) (request : Request) : Document R :=
  document.map fun member =>
    if member.1 = "metadata" then
      ("metadata",
        (member.2.withMember "source_language" (.text request.language)).withMember "target_format"
          (.text (Format.ofRequest request.format).name))
    else member

/-- The output as a request wants it. -/
def Rendered.presentedFor (rendered : Rendered R) (request : Request) : Rendered R where
  format := .ofRequest request.format
  document := rendered.document.presentedFor request
  text := (rendered.document.presentedFor request).render (.ofRequest request.format)

/-- The output is what a request asks for: the metadata name its language and its format, and the
document is rendered in that format. -/
structure Rendered.Presents (rendered : Rendered R) (request : Request) : Prop where
  metadata : ∃ metadata, Value.member? rendered.document "metadata" = some (.object metadata) ∧
    Value.member? metadata "source_language" = some (.text request.language) ∧
    Value.member? metadata "target_format" = some (.text (Format.ofRequest request.format).name)
  format : rendered.format = .ofRequest request.format
  text : rendered.text = rendered.document.render (.ofRequest request.format)

namespace Reading

variable {memory : ContextMemory R}

theorem result?_output (reading : Reading memory) (last : PhaseResult (Artifact R)) :
    (Run.through StandardPhase.scheduled (reading.results ++ [last])).result? "output" =
      some last := rfl

theorem rendered_presentedFor (reading : Reading memory) {request other : Request}
    (sameText : other.text = request.text) (surroundings : Surroundings R) (elapsed : Int) :
    reading.rendered other surroundings elapsed =
      (reading.rendered request surroundings elapsed).presentedFor other := by
  have document : (reading.report other surroundings elapsed).document =
      (reading.report request surroundings elapsed).document.presentedFor other := by
    simp [report, Report.document, Report.metadata, Document.presentedFor, Value.withMember,
      sameText]
  rw [rendered, rendered, document, Rendered.presentedFor]

theorem presents_rendered (reading : Reading memory) (request : Request)
    (surroundings : Surroundings R) (elapsed : Int) :
    (reading.rendered request surroundings elapsed).Presents request := by
  have document : (reading.rendered request surroundings elapsed).document =
      (reading.report request surroundings elapsed).document := by
    rw [rendered]
  have metadata : Value.member? (reading.report request surroundings elapsed).document
      "metadata" = some (reading.report request surroundings elapsed).metadata := by
    simp [Report.document, Value.member?]
  refine ⟨?_, by rw [rendered], by rw [rendered]⟩
  rw [document, metadata, Report.metadata]
  refine ⟨_, rfl, ?_, ?_⟩
  · simp [Value.member?, List.lookup_cons, report]
  · simp [Value.member?, List.lookup_cons, report]

end Reading

namespace Compiler

variable {compiler : Compiler R} {request other : Request} {session : Session R} {clock : Clock R}
  {compilation : Compilation R}

theorem format_of_answer
    (answered : (compiler.compile request session clock).answer = .ok compilation) :
    compilation.format = .ofRequest request.format := by
  cases ran : compiler.runPipeline request session clock with
  | mk run message? =>
      cases message? with
      | some message =>
          simp only [compile, ran, finishFailed] at answered
          split at answered
          · contradiction
          · rw [← Except.ok.inj answered]
      | none =>
          simp only [compile, ran, finishComplete] at answered
          split at answered
          · contradiction
          · split at answered
            · contradiction
            · rcases bind_eq_ok_iff.mp answered with ⟨rendered, _, same⟩
              rw [← Except.ok.inj same]

/-- Two requests for one text run alike up to the last phase, which presents the same document. -/
theorem agrees_of_text (standard : compiler.registry = StandardPhase.all)
    (sameText : other.text = request.text) (session : Session R) (clock : Clock R) :
    (compiler.compile request session clock).Agrees (compiler.compile other session clock)
      fun rendered => rendered.presentedFor other := by
  have runs := runs_runPipeline standard request session clock
  have otherRuns := runs_runPipeline standard other session clock
  generalize ran : compiler.runPipeline request session clock = piped at runs
  generalize otherRan : compiler.runPipeline other session clock = otherPiped at otherRuns
  cases runs with
  | unresolved unresolved =>
      cases otherRuns with
      | unresolved otherUnresolved =>
          rw [sameText] at otherUnresolved
          cases unresolved.symm.trans otherUnresolved
          exact agrees_of_failure ran otherRan _
      | untimed otherRead | completed otherRead =>
          rw [sameText] at otherRead
          cases unresolved.symm.trans otherRead
  | @untimed reading fault read untimed =>
      cases otherRuns with
      | unresolved otherUnresolved =>
          rw [sameText] at otherUnresolved
          cases read.symm.trans otherUnresolved
      | @untimed otherReading otherFault otherRead otherUntimed =>
          rw [sameText] at otherRead
          cases Reading.eq_of_tokens (Except.ok.inj (read.symm.trans otherRead))
          cases untimed.symm.trans otherUntimed
          exact agrees_of_failure ran otherRan _
      | completed _ timed => cases untimed.symm.trans timed
  | @completed reading elapsed rendered read timed output =>
      cases otherRuns with
      | unresolved otherUnresolved =>
          rw [sameText] at otherUnresolved
          cases read.symm.trans otherUnresolved
      | untimed _ untimed => cases timed.symm.trans untimed
      | @completed otherReading otherElapsed otherRendered otherRead otherTimed otherOutput =>
          rw [sameText] at otherRead
          cases Reading.eq_of_tokens (Except.ok.inj (read.symm.trans otherRead))
          cases timed.symm.trans otherTimed
          have presented : otherRendered = rendered.presentedFor other := by
            rw [← output, ← otherOutput, ← Reading.rendered_presentedFor reading sameText]
          subst presented
          apply agrees_of_success (fun rendered => rendered.presentedFor other) ran otherRan rfl
            (Reading.result?_output ..) (Reading.result?_output ..)
          intro id notOutput
          rw [Reading.lookup_through notOutput, Reading.lookup_through notOutput]

theorem exists_presents_of_answer (standard : compiler.registry = StandardPhase.all)
    (answered : (compiler.compile request session clock).answer = .ok compilation)
    (success : compilation.success = true) :
    ∃ rendered, compilation.output = some rendered ∧ rendered.Presents request := by
  rcases succeeded_of_answer standard answered success with
    ⟨reading, rendered, elapsed, _, same, _, output, _⟩
  refine ⟨rendered, output, ?_⟩
  rw [← same]
  exact reading.presents_rendered request _ elapsed

/-- Where the session can be counted and the time of day can be told, a call answers. -/
theorem exists_answer {count : Nat} {meanTime successRate : R} {time : Int} (request : Request)
    (standard : compiler.registry = StandardPhase.all)
    (counted : session.analytics = .counted count meanTime successRate)
    (counts : Quantity.Counts R (count + 1)) (dated : milliseconds clock.now = .ok time) :
    ∃ compilation, (compiler.compile request session clock).answer = .ok compilation := by
  have runs := runs_runPipeline standard request session clock
  generalize ran : compiler.runPipeline request session clock = piped at runs
  cases runs with
  | unresolved | untimed =>
      rcases Session.exists_record counted counts (duration clock) false with ⟨_, _, recorded⟩
      rw [compile_of_failure ran recorded]
      exact ⟨_, rfl⟩
  | @completed reading =>
      rcases Session.exists_record_remember counted counts (reading.graph.contextEntry time)
        (duration clock) (Report.isConfident reading.graph) with ⟨_, recorded⟩
      rw [compile_of_success ran rfl rfl dated recorded]
      exact ⟨_, rfl⟩

/-- Two requests for one text, in any session and at any time, end in the same fault, or in answers
that agree on everything but the output, and leave the same session; the second document is the
first one with the language and the format of the second request in its metadata. An answer names
the format that its request asks for; if it is a success, so does the document, which is rendered in
that format. In a session that compilations led to there is an answer. -/
theorem compile_agrees_up_to_format (compiler : Compiler R)
    (standard : compiler.registry = StandardPhase.all) (session : Session R) (clock : Clock R)
    (request other : Request) (sameText : other.text = request.text) :
    (compiler.compile request session clock).Agrees (compiler.compile other session clock)
        (fun rendered => rendered.presentedFor other) ∧
      (∀ compilation, (compiler.compile request session clock).answer = .ok compilation →
        compilation.format = .ofRequest request.format ∧
          Format.ofRequest (some compilation.format.name) = compilation.format ∧
          (compilation.success = true →
            ∃ rendered, compilation.output = some rendered ∧ rendered.Presents request)) ∧
      (session.Reachable →
        (∀ count : Nat, session.analytics.compilations = .int count →
          Quantity.Counts R (count + 1)) →
        (∃ time, milliseconds clock.now = .ok time) →
          ∃ compilation, (compiler.compile request session clock).answer = .ok compilation) := by
  refine ⟨agrees_of_text standard sameText session clock, ?_, ?_⟩
  · intro compilation answered
    exact ⟨format_of_answer answered, Format.ofRequest_name _,
      exists_presents_of_answer standard answered⟩
  · rintro reachable counts ⟨time, dated⟩
    rcases reachable.exists_counted with ⟨count, meanTime, successRate, counted⟩
    have inRange : Quantity.Counts R (count + 1) := by
      apply counts
      rw [counted]
      rfl
    exact exists_answer request standard counted inRange dated

/-- A request for an outline by another name. -/
def aliased : Request where
  text := "Dogs run"
  format := some " YML "
  language := "de"

theorem compile_agrees_up_to_format_aliased :
    (Session.forgetful.compile { text := "Dogs run" } (.fresh (.count 1)) ⟨0, 0, 1, 0, ""⟩).Agrees
        (Session.forgetful.compile aliased (.fresh (.count 1)) ⟨0, 0, 1, 0, ""⟩)
        (fun rendered => rendered.presentedFor aliased) ∧
      ∃ compilation : Compilation ℚ,
        (Session.forgetful.compile aliased (.fresh (.count 1)) ⟨0, 0, 1, 0, ""⟩).answer =
          .ok compilation ∧
        compilation.format = .outline := by
  have made : Session.forgetful.newSession = .ok (.fresh (.count 1)) := rfl
  have meant : Format.ofRequest aliased.format = .outline := by decide +kernel
  rcases compile_agrees_up_to_format Session.forgetful rfl (.fresh (.count 1)) ⟨0, 0, 1, 0, ""⟩
    { text := "Dogs run" } aliased rfl with ⟨agrees, _⟩
  rcases compile_agrees_up_to_format Session.forgetful rfl (.fresh (.count 1)) ⟨0, 0, 1, 0, ""⟩
    aliased { text := "Dogs run" } rfl with ⟨_, presented, answers⟩
  rcases answers (.fresh made) (fun count _ => Quantity.counts_exact (count + 1))
    (exists_milliseconds 0) with ⟨compilation, answer⟩
  refine ⟨agrees, compilation, answer, ?_⟩
  rw [(presented compilation answer).1, meant]

end Compiler

end SentenceGraph
