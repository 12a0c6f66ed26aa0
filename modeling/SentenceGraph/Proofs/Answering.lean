import SentenceGraph.Proofs.LiveSessions

/-!
# Servers always answer

A server whose compilers have the standard phases answers every visit: no fault takes the place of a
response. A compilation could only fail to answer where the totals of its session cannot be counted
up, or where the time cannot be told. The totals count the compilations in one session, of which
there are at most as many as visits.
-/

namespace SentenceGraph

open Fallible

variable {R : Type} [Quantity R]

/-- A visit to a compiler with the standard phases, at a time that can be told. -/
structure Visit.Orderly (visit : Visit R) : Prop where
  standard : visit.compiler.registry = StandardPhase.all
  dated : ∃ time, milliseconds visit.clock.now = .ok time

/-- With the standard phases a visit that is not about a session is answered. -/
theorem Visit.exists_aside {visit : Visit R} (orderly : visit.Orderly)
    (errand : visit.request.errand? = none) : ∃ response, visit.aside = .ok response := by
  rw [ServerRequest.errand?] at errand
  rw [aside, serveWith, Server.serve]
  cases routed : Route.ofPath (Address.requestPath visit.request.path) with
  | none => exact ⟨_, rfl⟩
  | some route =>
      by_cases allowed : route.methods.contains visit.request.method = true
      · simp only [allowed, if_true]
        cases route with
        | name => exact ⟨_, rfl⟩
        | phases =>
            obtain ⟨phases, listed⟩ : ∃ phases : List (Value R),
                Server.phaseList StandardPhase.all = .ok phases := ⟨_, rfl⟩
            simp only [orderly.standard, listed]
            exact ⟨_, rfl⟩
        | compilation =>
            have method : visit.request.method = "POST" := by simpa [Route.methods] using allowed
            simp only [routed, method, if_true, Option.map_eq_none_iff] at errand
            simp only [errand]
            exact ⟨_, rfl⟩
        | session id =>
            have method : visit.request.method = "GET" ∨ visit.request.method = "DELETE" := by
              simpa [Route.methods] using allowed
            rcases method with method | method
            · simp [routed, method] at errand
            · simp [routed, method] at errand
      · simp only [allowed]
        exact ⟨_, rfl⟩

/-- The totals of a session count up to some bound. -/
def Session.IsCounted (session : Session R) (bound : Nat) : Prop :=
  ∃ count ≤ bound, ∃ meanTime successRate, session.analytics = .counted count meanTime successRate

/-- A compilation in a session that is counted is answered, and counted. -/
theorem Session.IsCounted.exists_answer {session : Session R} {bound : Nat} {visit : Visit R}
    (counted : session.IsCounted bound) (counts : Quantity.Counts R (bound + 1))
    (orderly : visit.Orderly) (body : CompileBody) :
    (∃ compilation, (session.call (visit.attempt body)).answer = .ok compilation) ∧
      (session.call (visit.attempt body)).session.IsCounted (bound + 1) := by
  rcases counted with ⟨count, within, meanTime, successRate, totals⟩
  have enough : Quantity.Counts R (count + 1) := by
    intro smaller smaller_le
    exact counts smaller (by omega)
  have records : ∀ success, ∃ next,
      session.analytics.record (Compiler.duration visit.clock) success = .ok next := by
    intro success
    rw [totals]
    rcases Analytics.exists_record enough meanTime successRate _ success with ⟨_, _, recorded⟩
    exact ⟨_, recorded⟩
  have counts_next : ∀ {duration : R} {success : Bool} {next : Session R},
      session.analytics.record duration success = .ok next.analytics →
        next.IsCounted (bound + 1) := by
    intro duration success next recorded
    rw [totals] at recorded
    rcases Analytics.eq_counted_of_record recorded with ⟨nextTime, nextRate, same⟩
    exact ⟨count + 1, by omega, nextTime, nextRate, same⟩
  rcases orderly.dated with ⟨time, dated⟩
  have semantic : visit.compiler.registry.find? "semantic" = some StandardPhase.semantic := by
    rw [orderly.standard]
    rfl
  have output : visit.compiler.registry.find? "output" = some StandardPhase.output := by
    rw [orderly.standard]
    rfl
  rcases Compiler.compile_ends semantic output dated records with
    ⟨compilation, ended⟩ | ⟨compilation, graph, ended⟩
  · exact ⟨⟨compilation, ended.answer⟩, counts_next ended.totals⟩
  · exact ⟨⟨compilation, ended.answer⟩, counts_next ended.totals⟩

namespace LiveSessions

variable {live : LiveSessions R} {bound : Nat} {size : Capacity}

/-- The totals of every session count up to some bound. -/
def Counted (live : LiveSessions R) (bound : Nat) : Prop :=
  ∀ id session, live.find? id = some session → session.IsCounted bound

theorem Counted.exists_resume (counted : live.Counted bound)
    (sized : Capacity.ofInt live.capacity = .ok size) (id : String) :
    ∃ session, live.resume id = .ok session ∧ session.IsCounted bound := by
  rw [resume]
  cases found : live.find? id with
  | none =>
      rw [sized]
      exact ⟨_, rfl, 0, Nat.zero_le _, _, _, rfl⟩
  | some session => exact ⟨session, rfl, counted id session found⟩

omit [Quantity R] in
theorem Counted.set {session? : Option (Session R)} (counted : live.Counted bound) (id : String)
    (totals : ∀ session, session? = some session → session.IsCounted bound) :
    (live.set id session?).Counted bound := by
  intro other found
  rw [find?_set]
  split
  · exact totals found
  · exact counted other found

omit [Quantity R] in
theorem Counted.mono (counted : live.Counted bound) : live.Counted (bound + 1) := by
  intro id session found
  rcases counted id session found with ⟨count, within, totals⟩
  exact ⟨count, Nat.le_succ_of_le within, totals⟩

/-- A visit to a compiler with the standard phases is answered. -/
theorem Counted.serve {visit : Visit R} (counted : live.Counted bound)
    (sized : Capacity.ofInt live.capacity = .ok size) (orderly : visit.Orderly)
    (counts : Quantity.Counts R (bound + 1)) :
    (∃ response, (live.serve visit).2 = .ok response) ∧
      (live.serve visit).1.Counted (bound + 1) := by
  have serves := live.serves_serve visit
  generalize (live.serve visit).1 = after at serves ⊢
  generalize (live.serve visit).2 = response at serves ⊢
  cases serves with
  | aside errand => exact ⟨Visit.exists_aside orderly errand, counted.mono⟩
  | @compiled body session compilation errand resumed answered =>
      rcases counted.exists_resume sized (Server.sessionIdOf body visit.freshId) with
        ⟨same, resumedSame, within⟩
      cases resumed.symm.trans resumedSame
      refine ⟨⟨_, rfl⟩, counted.mono.set _ ?_⟩
      rintro other ⟨⟩
      exact (within.exists_answer counts orderly body).2
  | @brokenDown body fault errand fails =>
      -- The session can be resumed and counted, so its compilation does not end in a fault.
      rcases counted.exists_resume sized (Server.sessionIdOf body visit.freshId) with
        ⟨session, resumed, within⟩
      rcases (within.exists_answer counts orderly body).1 with ⟨compilation, answered⟩
      simp only [compile, resumed, ok_bind, answered, pure_eq_ok] at fails
      contradiction
  | shown errand found => exact ⟨⟨_, rfl⟩, counted.mono⟩
  | forgotten errand found => exact ⟨⟨_, rfl⟩, counted.mono.set _ (by simp)⟩
  | notFound errand missing => exact ⟨⟨_, rfl⟩, counted.mono⟩

theorem Counted.answered {visits : List (Visit R)} (counted : live.Counted bound)
    (sized : Capacity.ofInt live.capacity = .ok size)
    (orderly : ∀ visit ∈ visits, visit.Orderly)
    (counts : Quantity.Counts R (bound + visits.length)) :
    ∀ entry ∈ transcript LiveSessions.serve live visits, ∃ response, entry.2 = .ok response := by
  induction visits generalizing live bound with
  | nil => simp [transcript]
  | cons visit rest inductionHypothesis =>
      have fewer : Quantity.Counts R (bound + 1) := by
        intro smaller smaller_le
        rw [List.length_cons] at counts
        exact counts smaller (by omega)
      rcases counted.serve sized (orderly visit (by simp)) fewer with ⟨here, next⟩
      rw [transcript, List.forall_mem_cons]
      refine ⟨here, inductionHypothesis next ?_ ?_ ?_⟩
      · rwa [capacity_serve]
      · intro other other_mem
        exact orderly other (List.mem_cons_of_mem _ other_mem)
      · rw [List.length_cons] at counts
        rwa [Nat.add_assoc, Nat.add_comm 1]

end LiveSessions

end SentenceGraph
