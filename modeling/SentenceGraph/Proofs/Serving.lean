import SentenceGraph.Proofs.Answering

/-!
# What a server tells of its sessions

A session is known to the server if a compilation in it was answered since the server started or,
if the session was forgotten, since then. It then is what these compilations make of a new session,
whatever happened in other sessions meanwhile. Otherwise there is nothing to show or to forget.

A session can be asked for if its identifier has no slashes. A compilation may name any identifier,
but a path that has a slash where the identifier stands is not the path of a session. So a session
of such an identifier goes on from call to call, and cannot be shown or forgotten.

All this is proved of live sessions, by induction on the visits from their end: the step is that
live sessions which reflect the visits so far (`LiveSessions.Reflect`) reflect one more.
-/

namespace SentenceGraph

open Fallible

variable {R : Type} [Quantity R]

/-- The attempts at a session after a visit: an answered one is added, forgetting drops them all. -/
def Visit.follow (visit : Visit R) (response : Served R) (id : String)
    (attempts : List (Attempt R)) : List (Attempt R) :=
  match visit.request.errand? with
  | some (.compile body) =>
      match response with
      | .ok _ =>
          if id = Server.sessionIdOf body visit.freshId then attempts ++ [visit.attempt body]
          else attempts
      | .error _ => attempts
  | some (.forget other) => if id = other then [] else attempts
  | _ => attempts

omit [Quantity R] in
theorem Visit.follow_of_apart {visit : Visit R} {id : String} (apart : visit.sessionId? ≠ some id)
    (response : Served R) (attempts : List (Attempt R)) :
    visit.follow response id attempts = attempts := by
  rw [sessionId?] at apart
  cases errand : visit.request.errand? with
  | none => simp only [follow, errand]
  | some wanted =>
      rw [errand] at apart
      cases wanted with
      | look other => simp only [follow, errand]
      | compile body =>
          have different : id ≠ Server.sessionIdOf body visit.freshId := by
            rintro rfl
            exact apart rfl
          simp only [follow, errand]
          split
          · rw [if_neg different]
          · rfl
      | forget other =>
          have different : id ≠ other := by
            rintro rfl
            exact apart rfl
          simp only [follow, errand]
          rw [if_neg different]

/-- The attempts that were answered in a session since it was last forgotten. -/
def attemptsSince (id : String) (served : List (Visit R × Served R)) : List (Attempt R) :=
  served.foldl (fun attempts entry => entry.1.follow entry.2 id attempts) []

omit [Quantity R] in
theorem attemptsSince_append_singleton (id : String) (served : List (Visit R × Served R))
    (visit : Visit R) (response : Served R) :
    attemptsSince id (served ++ [(visit, response)]) =
      visit.follow response id (attemptsSince id served) :=
  List.foldl_append

omit [Quantity R] in
theorem Server.sessionIdOf_ne_empty (body : CompileBody) {freshId : String} (given : freshId ≠ "") :
    sessionIdOf body freshId ≠ "" := by
  rw [sessionIdOf]
  split
  · exact given
  · exact given
  · assumption

omit [Quantity R] in
/-- There are no attempts at a session of the empty identifier, if a new one is never given it. -/
theorem attemptsSince_empty {served : List (Visit R × Served R)}
    (given : ∀ visit ∈ served.map Prod.fst, visit.freshId ≠ "") : attemptsSince "" served = [] := by
  induction served using List.reverseRecOn with
  | nil => rfl
  | append_singleton served entry inductionHypothesis =>
      rw [List.map_append, List.forall_mem_append] at given
      have freshId := given.2 entry.1 (by simp)
      rw [attemptsSince_append_singleton, inductionHypothesis given.1, Visit.follow]
      split
      · rename_i body _
        split
        · rw [if_neg (Server.sessionIdOf_ne_empty body freshId).symm]
        · rfl
      · rw [ite_self]
      · rfl

/-- What attempts at a session make of it; without any there is none. -/
inductive Recalls (capacity : Int) : List (Attempt R) → Option (Session R) → Prop where
  | nothing : Recalls capacity [] none
  | after {size : Capacity} {attempts : List (Attempt R)}
      (sized : Capacity.ofInt capacity = .ok size) (attempted : attempts ≠ []) :
      Recalls capacity attempts (some ((Session.fresh size).after attempts))

namespace Recalls

variable {capacity : Int} {attempts : List (Attempt R)} {session? : Option (Session R)}

theorem eq_nil (recalls : Recalls capacity attempts none) : attempts = [] := by
  cases recalls
  rfl

theorem eq_none (recalls : Recalls capacity [] session?) : session? = none := by
  cases recalls with
  | nothing => rfl
  | after sized attempted => contradiction

theorem exists_size (recalls : Recalls capacity attempts session?) (attempted : attempts ≠ []) :
    ∃ size, Capacity.ofInt capacity = .ok size ∧
      session? = some ((Session.fresh size).after attempts) := by
  cases recalls with
  | nothing => contradiction
  | after sized attempted => exact ⟨_, sized, rfl⟩

end Recalls

namespace LiveSessions

variable {live : LiveSessions R} {capacity : Int} {served : List (Visit R × Served R)}

/-- Live sessions are what the visits so far made of new ones. -/
structure Reflect (live : LiveSessions R) (capacity : Int) (served : List (Visit R × Served R)) :
    Prop where
  capacity_eq : live.capacity = capacity
  recalls : ∀ id, Recalls capacity (attemptsSince id served) (live.find? id)

namespace Reflect

theorem empty (capacity : Int) : Reflect (R := R) { capacity } capacity [] where
  capacity_eq := rfl
  recalls _ := .nothing

theorem resume_eq (reflect : live.Reflect capacity served) (id : String) :
    live.resume id =
      (Capacity.ofInt capacity).map fun size =>
        (Session.fresh size).after (attemptsSince id served) := by
  have recalls := reflect.recalls id
  rw [resume, reflect.capacity_eq]
  generalize attemptsSince id served = attempts at recalls ⊢
  generalize live.find? id = session? at recalls ⊢
  cases recalls with
  | nothing => rfl
  | after sized attempted =>
      rw [sized]
      rfl

/-- A visit that changes no session and none of the attempts. -/
theorem unchanged {visit : Visit R} {response : Served R} (reflect : live.Reflect capacity served)
    (same : ∀ id, visit.follow response id (attemptsSince id served) = attemptsSince id served) :
    live.Reflect capacity (served ++ [(visit, response)]) where
  capacity_eq := reflect.capacity_eq
  recalls := by
    intro id
    rw [attemptsSince_append_singleton, same]
    exact reflect.recalls id

/-- A visit that changes one session and the attempts at it. -/
theorem changed {visit : Visit R} {response : Served R} {id : String}
    {session? : Option (Session R)} (reflect : live.Reflect capacity served)
    (about : visit.sessionId? = some id)
    (recalls : Recalls capacity (visit.follow response id (attemptsSince id served)) session?) :
    (live.set id session?).Reflect capacity (served ++ [(visit, response)]) where
  capacity_eq := reflect.capacity_eq
  recalls := by
    intro other
    rw [attemptsSince_append_singleton, find?_set]
    split
    · rename_i same
      rw [same]
      exact recalls
    · rename_i different
      have apart : visit.sessionId? ≠ some other := by
        rw [about]
        intro same
        exact different (Option.some.inj same).symm
      rw [Visit.follow_of_apart apart]
      exact reflect.recalls other

theorem compiled {visit : Visit R} {body : CompileBody} {session : Session R}
    {response : ServerResponse R} (reflect : live.Reflect capacity served)
    (errand : visit.request.errand? = some (.compile body))
    (resumed : live.resume (Server.sessionIdOf body visit.freshId) = .ok session) :
    (live.set (Server.sessionIdOf body visit.freshId)
      (some (session.call (visit.attempt body)).session)).Reflect capacity
        (served ++ [(visit, .ok response)]) := by
  apply reflect.changed
  · simp only [Visit.sessionId?, errand, Option.map_some]
  · -- What was resumed is what the attempts so far made, so the call is one more of them.
    simp only [Visit.follow, errand, if_true]
    rw [reflect.resume_eq] at resumed
    cases sized : Capacity.ofInt capacity with
    | error fault =>
        rw [sized] at resumed
        contradiction
    | ok size =>
        rw [sized] at resumed
        cases resumed
        have attempted : attemptsSince (Server.sessionIdOf body visit.freshId) served ++
            [visit.attempt body] ≠ [] := by simp
        have recalls := Recalls.after sized attempted
        rwa [Session.after_append] at recalls

theorem forgotten {visit : Visit R} {id : String} {response : Served R}
    (reflect : live.Reflect capacity served)
    (errand : visit.request.errand? = some (.forget id)) :
    (live.set id none).Reflect capacity (served ++ [(visit, response)]) := by
  apply reflect.changed
  · simp only [Visit.sessionId?, errand, Option.map_some]
  · simp only [Visit.follow, errand, if_true]
    exact .nothing

theorem notFound {visit : Visit R} {id : String} {response : Served R}
    (reflect : live.Reflect capacity served)
    (errand : visit.request.errand? = some (.look id) ∨
      visit.request.errand? = some (.forget id))
    (missing : live.find? id = none) :
    live.Reflect capacity (served ++ [(visit, response)]) := by
  have recalls := reflect.recalls id
  rw [missing] at recalls
  apply reflect.unchanged
  intro other
  rcases errand with errand | errand
  · simp only [Visit.follow, errand]
  · -- There were no attempts to drop.
    simp only [Visit.follow, errand]
    split
    · rename_i same
      rw [same, recalls.eq_nil]
    · rfl

/-- Live sessions reflect one more visit. -/
theorem serve (reflect : live.Reflect capacity served) (visit : Visit R) :
    (live.serve visit).1.Reflect capacity (served ++ [(visit, (live.serve visit).2)]) := by
  have serves := live.serves_serve visit
  generalize (live.serve visit).1 = after at serves ⊢
  generalize (live.serve visit).2 = response at serves ⊢
  cases serves with
  | aside errand => exact reflect.unchanged fun id => by simp only [Visit.follow, errand]
  | compiled errand resumed answered => exact reflect.compiled errand resumed
  | brokenDown errand fails => exact reflect.unchanged fun id => by simp only [Visit.follow, errand]
  | shown errand found => exact reflect.unchanged fun id => by simp only [Visit.follow, errand]
  | forgotten errand found => exact reflect.forgotten errand
  | notFound errand missing => exact reflect.notFound errand missing

/-- Live sessions reflect all visits since there were none. -/
theorem afterVisits (capacity : Int) (visits : List (Visit R)) :
    (afterVisits LiveSessions.serve { capacity } visits).Reflect capacity
      (transcript LiveSessions.serve { capacity } visits) := by
  induction visits using List.reverseRecOn with
  | nil => exact empty capacity
  | append_singleton earlier visit inductionHypothesis =>
      rw [afterVisits_append, transcript_append]
      exact inductionHypothesis.serve visit

end Reflect

end LiveSessions

/-! ### The server -/

namespace SessionStore

/-- How a server whose store was empty at first responds to a visit, after others. -/
def responseTo (capacity : Int) (earlier : List (Visit R)) (visit : Visit R) : Served R :=
  (serve (afterVisits serve { capacity } earlier) visit).2

/-- The attempts that such a server answered in a session since it was last forgotten. -/
def attemptsAt (capacity : Int) (visits : List (Visit R)) (id : String) : List (Attempt R) :=
  attemptsSince id (transcript serve { capacity } visits)

/-- What a server does with its sessions after some visits, when its store was empty at first: it
responds as if it kept the sessions themselves, and each is what the attempts at it made of it. -/
structure RefinesLiveSessions (capacity : Int) (visits : List (Visit R)) : Prop where
  live : transcript serve { capacity } visits = transcript LiveSessions.serve { capacity } visits
  /-- A session whose identifier has no slashes is shown and forgotten by the path that ends in it. -/
  addressed : ∀ (request : ServerRequest R) (id : String), request.Addresses id → id ≠ "" →
    '/' ∉ id.toList →
      (request.method = "GET" → request.errand? = some (.look id)) ∧
        (request.method = "DELETE" → request.errand? = some (.forget id))
  /-- No other session is shown or forgotten. -/
  slashless : ∀ (request : ServerRequest R) (id : String),
    request.errand? = some (.look id) ∨ request.errand? = some (.forget id) → '/' ∉ id.toList
  /-- A request to show or to forget a session gets the status 404 if and only if there were no
  attempts at it. No attempt is at a session of the empty identifier, unless a new one is given it. -/
  status : ∀ (visit : Visit R) (id : String), visit.request.Addresses id → '/' ∉ id.toList →
    visit.request.method = "GET" ∨ visit.request.method = "DELETE" →
    (id = "" → ∀ earlier ∈ visits, earlier.freshId ≠ "") →
      ∃ response, responseTo capacity visits visit = .ok response ∧
        (response.status = 404 ↔ attemptsAt capacity visits id = [])
  /-- A session without attempts is found neither to be shown nor to be forgotten. -/
  unknown : ∀ (visit : Visit R) (id : String),
    visit.request.errand? = some (.look id) ∨ visit.request.errand? = some (.forget id) →
      attemptsAt capacity visits id = [] → responseTo capacity visits visit = .ok .sessionNotFound
  shown : ∀ (visit : Visit R) (id : String), visit.request.errand? = some (.look id) →
    attemptsAt capacity visits id ≠ [] →
      ∃ size, Capacity.ofInt capacity = .ok size ∧
        responseTo capacity visits visit = .ok (.ok (("id", .text id) ::
          ((Session.fresh size).after (attemptsAt capacity visits id)).toMembers))
  forgotten : ∀ (visit : Visit R) (id : String), visit.request.errand? = some (.forget id) →
    attemptsAt capacity visits id ≠ [] →
      responseTo capacity visits visit = .ok (.ok [("success", .bool true)])
  /-- A visit about one session makes no difference to those about others. -/
  apart : ∀ visit observer : Visit R,
    (∀ id, visit.sessionId? = some id → observer.sessionId? ≠ some id) →
      responseTo capacity (visits ++ [visit]) observer = responseTo capacity visits observer
  /-- After a failed compilation the session shows the memory as before, and its totals count the
  failure. -/
  failed : ∀ (visit observer : Visit R) (body : CompileBody) (size : Capacity)
    (session : Session R) (compilation : Compilation R),
    visit.request.errand? = some (.compile body) →
    observer.request.errand? = some (.look (Server.sessionIdOf body visit.freshId)) →
    Capacity.ofInt capacity = .ok size →
    session = (Session.fresh size).after
      (attemptsAt capacity visits (Server.sessionIdOf body visit.freshId)) →
    (session.call (visit.attempt body)).answer = .ok compilation → compilation.success = false →
      ∃ totals, session.analytics.record compilation.duration false = .ok totals ∧
        responseTo capacity (visits ++ [visit]) observer =
          .ok (.ok (("id", .text (Server.sessionIdOf body visit.freshId)) ::
            Session.toMembers { memory := session.memory, analytics := totals }))
  /-- With the standard phases there is a response to every visit. -/
  answered : ∀ size, Capacity.ofInt capacity = .ok size → Quantity.Counts R visits.length →
    (∀ visit ∈ visits, visit.Orderly) →
      ∀ entry ∈ transcript serve { capacity } visits, ∃ response, entry.2 = .ok response

variable (capacity : Int) (visits : List (Visit R))

theorem transcript_live :
    transcript serve { capacity } visits = transcript LiveSessions.serve { capacity } visits :=
  ((Holds.empty capacity).transcript_eq visits).1

theorem responseTo_eq (visit : Visit R) :
    responseTo capacity visits visit =
      ((afterVisits LiveSessions.serve { capacity } visits).serve visit).2 :=
  (((Holds.empty capacity).transcript_eq visits).2.serve visit).1

theorem reflect :
    (afterVisits LiveSessions.serve { capacity } visits).Reflect capacity
      (transcript serve { capacity } visits) := by
  rw [transcript_live]
  exact LiveSessions.Reflect.afterVisits capacity visits

variable {capacity visits} {visit : Visit R} {id : String}

theorem responseTo_unknown
    (errand : visit.request.errand? = some (.look id) ∨ visit.request.errand? = some (.forget id))
    (untried : attemptsAt capacity visits id = []) :
    responseTo capacity visits visit = .ok .sessionNotFound := by
  have recalls := (reflect capacity visits).recalls id
  rw [attemptsAt] at untried
  rw [untried] at recalls
  have missing := recalls.eq_none
  rw [responseTo_eq]
  rcases errand with errand | errand
  · rw [LiveSessions.serve_look errand, missing]
  · rw [LiveSessions.serve_forget errand, missing]

theorem responseTo_shown (errand : visit.request.errand? = some (.look id))
    (attempted : attemptsAt capacity visits id ≠ []) :
    ∃ size, Capacity.ofInt capacity = .ok size ∧
      responseTo capacity visits visit = .ok (.ok (("id", .text id) ::
        ((Session.fresh size).after (attemptsAt capacity visits id)).toMembers)) := by
  rcases ((reflect capacity visits).recalls id).exists_size attempted with ⟨size, sized, found⟩
  refine ⟨size, sized, ?_⟩
  rw [responseTo_eq, LiveSessions.serve_look errand, found]
  rfl

theorem responseTo_forgotten (errand : visit.request.errand? = some (.forget id))
    (attempted : attemptsAt capacity visits id ≠ []) :
    responseTo capacity visits visit = .ok (.ok [("success", .bool true)]) := by
  rcases ((reflect capacity visits).recalls id).exists_size attempted with ⟨size, _, found⟩
  rw [responseTo_eq, LiveSessions.serve_forget errand, found]

theorem responseTo_unrouted
    (unrouted : Route.ofPath (Address.requestPath visit.request.path) = none) :
    responseTo capacity visits visit = .ok .notFound := by
  have errand : visit.request.errand? = none := by rw [ServerRequest.errand?, unrouted]
  rw [responseTo_eq, LiveSessions.serve, errand]
  simp only [Visit.aside, Visit.serveWith, Server.serve, unrouted, Except.map]

theorem responseTo_status (addresses : visit.request.Addresses id) (plain : '/' ∉ id.toList)
    (method : visit.request.method = "GET" ∨ visit.request.method = "DELETE")
    (given : id = "" → ∀ earlier ∈ visits, earlier.freshId ≠ "") :
    ∃ response, responseTo capacity visits visit = .ok response ∧
      (response.status = 404 ↔ attemptsAt capacity visits id = []) := by
  by_cases empty : id = ""
  · subst empty
    have untried : attemptsAt capacity visits "" = [] := by
      apply attemptsSince_empty
      rw [map_fst_transcript]
      exact given rfl
    have unrouted : Route.ofPath (Address.requestPath visit.request.path) = none := by
      rw [addresses, String.append_empty, Route.ofPath_sessions]
    exact ⟨_, responseTo_unrouted unrouted, iff_of_true rfl untried⟩
  · rcases addresses.errand? empty plain with ⟨look, forget⟩
    by_cases untried : attemptsAt capacity visits id = []
    · exact ⟨_, responseTo_unknown (method.imp look forget) untried, iff_of_true rfl untried⟩
    · rcases method with looking | forgetting
      · rcases responseTo_shown (look looking) untried with ⟨_, _, shown⟩
        exact ⟨_, shown, iff_of_false (by simp [ServerResponse.ok]) untried⟩
      · have forgotten := responseTo_forgotten (forget forgetting) untried
        exact ⟨_, forgotten, iff_of_false (by simp [ServerResponse.ok]) untried⟩

theorem responseTo_apart {observer : Visit R}
    (apart : ∀ id, visit.sessionId? = some id → observer.sessionId? ≠ some id) :
    responseTo capacity (visits ++ [visit]) observer = responseTo capacity visits observer := by
  rw [responseTo_eq, responseTo_eq, afterVisits_append]
  apply LiveSessions.serve_congr
  · exact LiveSessions.capacity_serve _ visit
  · intro id observed
    apply LiveSessions.find?_serve_of_apart
    intro same
    exact apart id same observed

theorem attemptsAt_compiled {body : CompileBody} {size : Capacity} {compilation : Compilation R}
    (errand : visit.request.errand? = some (.compile body))
    (sized : Capacity.ofInt capacity = .ok size)
    (answered : (((Session.fresh size).after
      (attemptsAt capacity visits (Server.sessionIdOf body visit.freshId))).call
        (visit.attempt body)).answer = .ok compilation) :
    attemptsAt capacity (visits ++ [visit]) (Server.sessionIdOf body visit.freshId) =
      attemptsAt capacity visits (Server.sessionIdOf body visit.freshId) ++
        [visit.attempt body] := by
  have resumed := (reflect capacity visits).resume_eq (Server.sessionIdOf body visit.freshId)
  rw [sized] at resumed
  have response := LiveSessions.serve_compile errand resumed answered
  rw [← responseTo_eq, responseTo] at response
  rw [attemptsAt, transcript_append, transcript, transcript, attemptsSince_append_singleton,
    response, ← attemptsAt]
  simp only [Visit.follow, errand, if_true]

theorem responseTo_failed {observer : Visit R} {body : CompileBody} {size : Capacity}
    {session : Session R} {compilation : Compilation R}
    (errand : visit.request.errand? = some (.compile body))
    (looking : observer.request.errand? = some (.look (Server.sessionIdOf body visit.freshId)))
    (sized : Capacity.ofInt capacity = .ok size)
    (made : session = (Session.fresh size).after
      (attemptsAt capacity visits (Server.sessionIdOf body visit.freshId)))
    (answered : (session.call (visit.attempt body)).answer = .ok compilation)
    (failure : compilation.success = false) :
    ∃ totals, session.analytics.record compilation.duration false = .ok totals ∧
      responseTo capacity (visits ++ [visit]) observer =
        .ok (.ok (("id", .text (Server.sessionIdOf body visit.freshId)) ::
          Session.toMembers { memory := session.memory, analytics := totals })) := by
  subst made
  have ended := Compiler.failed_of_answer answered failure
  have attempts := attemptsAt_compiled errand sized answered
  have attempted : attemptsAt capacity (visits ++ [visit])
      (Server.sessionIdOf body visit.freshId) ≠ [] := by simp [attempts]
  rcases responseTo_shown looking attempted with ⟨sameSize, sameSized, shown⟩
  cases sized.symm.trans sameSized
  refine ⟨_, ended.totals, ?_⟩
  rw [shown, attempts, Session.after_append, Session.after_cons, Session.after_nil, ← ended.memory]
  rfl

/-- Whatever the visits are, a server responds like one that keeps its sessions and never stores
them. It finds a session whose identifier has no slashes if and only if compilations in it were
answered since it was last forgotten, and shows what these alone made of a new session, failed ones
included. -/
theorem refines_liveSessions (capacity : Int) (visits : List (Visit R)) :
    RefinesLiveSessions capacity visits where
  live := transcript_live capacity visits
  addressed _ _ addresses := addresses.errand?
  slashless _ _ := ServerRequest.slash_not_mem_of_errand?
  status _ _ := responseTo_status
  unknown _ _ := responseTo_unknown
  shown _ _ := responseTo_shown
  forgotten _ _ := responseTo_forgotten
  apart _ _ := responseTo_apart
  failed _ _ _ _ _ _ := responseTo_failed
  answered := by
    intro size sized counts orderly
    rw [transcript_live]
    have uncounted : LiveSessions.Counted ({ capacity } : LiveSessions R) 0 := by
      rintro id session ⟨⟩
    apply uncounted.answered sized orderly
    rwa [Nat.zero_add]

/-- A user whose sentence is compiled while the dictionary breaks down. -/
def unluckyVisit : Visit ℚ where
  compiler := { Session.forgetful with service := fun _ => .crashed "torn" }
  request := {
    method := "POST"
    path := "/api/compile"
    body := some (.object [("text", .text "cats sleep"), ("session_id", .text "ann")]) }
  clock := ⟨0, 0, 2, 0, ""⟩
  freshId := "new"

/-- A user who asks for the session of another one, whose name has to be escaped. -/
def curiousVisit : Visit ℚ where
  compiler := Session.forgetful
  request := { method := "GET", path := "/api/sessions/bob%3F" }
  clock := ⟨0, 0, 1, 0, ""⟩
  freshId := "new"

theorem refines_liveSessions_unlucky :
    (∀ entry ∈ transcript serve { capacity := 1 } [unluckyVisit],
      ∃ response, entry.2 = .ok response) ∧
    responseTo 1 [unluckyVisit] curiousVisit = .ok .sessionNotFound ∧
    ∃ response, responseTo 1 [unluckyVisit] curiousVisit = .ok response ∧
      (response.status = 404 ↔ attemptsAt 1 [unluckyVisit] "bob?" = []) := by
  have counts : Quantity.Counts ℚ [unluckyVisit].length := Quantity.counts_exact _
  have orderly : ∀ visit ∈ [unluckyVisit], visit.Orderly := by
    intro visit visit_mem
    cases List.mem_singleton.mp visit_mem
    exact ⟨rfl, exists_milliseconds _⟩
  have posted : Route.ofPath (Address.requestPath "/api/compile") = some .compilation := by
    decide +kernel
  have addresses : curiousVisit.request.Addresses "bob?" := by
    unfold ServerRequest.Addresses
    decide +kernel
  have compiling : unluckyVisit.request.errand? = some (.compile
      { request := { text := "cats sleep", format := some "json" }, sessionId := some "ann" }) := by
    simp only [ServerRequest.errand?, unluckyVisit, posted]
    rfl
  have untried : attemptsAt 1 [unluckyVisit] "bob?" = [] := by
    apply Visit.follow_of_apart
    rw [Visit.sessionId?, compiling]
    decide
  have refines := refines_liveSessions 1 [unluckyVisit]
  have errand := (refines.addressed _ _ addresses (by decide) (by decide)).1 rfl
  exact ⟨refines.answered (.count 1) rfl counts orderly,
    refines.unknown curiousVisit "bob?" (Or.inl errand) untried,
    refines.status curiousVisit "bob?" addresses (by decide) (Or.inl rfl) (by decide)⟩

/-- A user who compiles in a session whose identifier has a slash. -/
def slashedVisit : Visit ℚ where
  compiler := Session.forgetful
  request := {
    method := "POST"
    path := "/api/compile"
    body := some (.object [("text", .text "cats sleep"), ("session_id", .text "a/b")]) }
  clock := ⟨0, 0, 1, 0, ""⟩
  freshId := "new"

/-- The same user, who asks for that session. -/
def returningVisit : Visit ℚ where
  compiler := Session.forgetful
  request := { method := "GET", path := "/api/sessions/a%2Fb" }
  clock := ⟨0, 0, 1, 0, ""⟩
  freshId := "new"

/-- A session is not found although a compilation in it was answered and it was never forgotten. -/
theorem slashed_session_not_found :
    attemptsAt 1 [slashedVisit] "a/b" ≠ [] ∧ returningVisit.request.Addresses "a/b" ∧
      responseTo 1 [slashedVisit] returningVisit = .ok .notFound ∧
        ∀ request : ServerRequest ℚ,
          request.errand? ≠ some (.look "a/b") ∧ request.errand? ≠ some (.forget "a/b") := by
  have posted : Route.ofPath (Address.requestPath "/api/compile") = some .compilation := by
    decide +kernel
  have compiling : slashedVisit.request.errand? = some (.compile
      { request := { text := "cats sleep", format := some "json" }, sessionId := some "a/b" }) := by
    simp only [ServerRequest.errand?, slashedVisit, posted]
    rfl
  have counted : (Session.fresh (.count 1) : Session ℚ).IsCounted 0 := ⟨0, le_rfl, _, _, rfl⟩
  have orderly : slashedVisit.Orderly := ⟨rfl, exists_milliseconds _⟩
  rcases (counted.exists_answer (Quantity.counts_exact _) orderly _).1 with ⟨compilation, answered⟩
  have attempts : attemptsAt 1 ([] ++ [slashedVisit]) "a/b" =
      attemptsAt 1 [] "a/b" ++ [slashedVisit.attempt _] :=
    attemptsAt_compiled compiling rfl answered
  have addresses : returningVisit.request.Addresses "a/b" := by
    unfold ServerRequest.Addresses
    decide +kernel
  have unrouted : Route.ofPath (Address.requestPath returningVisit.request.path) = none := by
    rw [addresses]
    decide +kernel
  have unreached : ∀ request : ServerRequest ℚ,
      ¬(request.errand? = some (.look "a/b") ∨ request.errand? = some (.forget "a/b")) := by
    intro request errand
    have plain := ServerRequest.slash_not_mem_of_errand? errand
    exact plain (by decide)
  refine ⟨?_, addresses, responseTo_unrouted unrouted, fun request => not_or.mp (unreached request)⟩
  rw [← List.nil_append [slashedVisit], attempts]
  simp

end SessionStore

end SentenceGraph
