import SentenceGraph.Proofs.Histories
import SentenceGraph.Proofs.Routing
import SentenceGraph.Proofs.Storing

/-!
# Sessions that are never stored

For every request about a session the server reads a document from its store, and after a
compilation it writes one back. The sessions that it reads are those that a server would have that
keeps the sessions themselves, one for each identifier: a store holds the documents of such live
sessions, and with every request it goes on to do so. So both servers respond alike, to requests of
any number and order.

A request comes with all that the server finds at the time, which is in particular what the
dictionary replies. A fault may take the place of a response, and then no session is changed.
-/

namespace SentenceGraph

open Fallible

variable {R : Type} [Quantity R]

/-- What a request may want of a session. -/
inductive Errand where
  | compile (body : CompileBody)
  | look (id : String)
  | forget (id : String)

/-- What a request wants of a session, if anything. -/
def ServerRequest.errand? (request : ServerRequest R) : Option Errand :=
  match Route.ofPath (Address.requestPath request.path) with
  | some .compilation =>
      if request.method = "POST" then (request.body.bind CompileBody.ofValue?).map .compile
      else none
  | some (.session id) =>
      if request.method = "GET" then some (.look id)
      else if request.method = "DELETE" then some (.forget id)
      else none
  | _ => none

namespace ServerRequest

variable {request : ServerRequest R} {id : String}

omit [Quantity R]

/-- The path of a request is that of a session, however it is escaped. -/
def Addresses (request : ServerRequest R) (id : String) : Prop :=
  Address.requestPath request.path = "/api/sessions/" ++ id

theorem Addresses.errand? (addresses : request.Addresses id) (given : id ≠ "")
    (plain : '/' ∉ id.toList) :
    (request.method = "GET" → request.errand? = some (.look id)) ∧
      (request.method = "DELETE" → request.errand? = some (.forget id)) := by
  have routed := Route.ofPath_session given plain
  rw [← addresses] at routed
  constructor
  · intro method
    simp [ServerRequest.errand?, routed, method]
  · intro method
    simp [ServerRequest.errand?, routed, method]

theorem ofPath_of_errand?
    (errand : request.errand? = some (.look id) ∨ request.errand? = some (.forget id)) :
    Route.ofPath (Address.requestPath request.path) = some (.session id) := by
  rw [ServerRequest.errand?] at errand
  split at errand
  · split at errand
    · rcases errand with errand | errand
      · rcases Option.map_eq_some_iff.mp errand with ⟨_, _, impossible⟩
        cases impossible
      · rcases Option.map_eq_some_iff.mp errand with ⟨_, _, impossible⟩
        cases impossible
    · simp at errand
  · rename_i other routed
    rw [routed]
    split at errand
    · simpa using errand
    · split at errand
      · simpa using errand
      · simp at errand
  · simp at errand

/-- A request that shows or forgets a session is about one whose identifier has no slashes. -/
theorem slash_not_mem_of_errand?
    (errand : request.errand? = some (.look id) ∨ request.errand? = some (.forget id)) :
    '/' ∉ id.toList :=
  Route.slash_not_mem_of_ofPath (ofPath_of_errand? errand)

end ServerRequest

/-- A request as it comes to a server, with the compiler and its dictionary at the time, the clocks
and the identifier that a new session would get. -/
structure Visit (R : Type) where
  compiler : Compiler R
  request : ServerRequest R
  clock : Clock R
  freshId : String

/-- A response, or the fault that takes its place. -/
abbrev Served (R : Type) := Except Fault (ServerResponse R)

namespace Visit

def attempt (visit : Visit R) (body : CompileBody) : Attempt R where
  compiler := visit.compiler
  request := body.request
  clock := visit.clock

/-- The session that a visit is about. -/
def sessionId? (visit : Visit R) : Option String :=
  visit.request.errand?.map fun
    | .compile body => Server.sessionIdOf body visit.freshId
    | .look id => id
    | .forget id => id

/-- How a server responds that has these sessions. -/
def serveWith (visit : Visit R) (store : SessionStore R) :
    Except Fault (Server R × ServerResponse R) :=
  (Server.mk visit.compiler store).serve visit.request visit.clock visit.freshId

/-- The response to a visit that is not about sessions: any server gives it. -/
def aside (visit : Visit R) : Served R :=
  (visit.serveWith { capacity := 0 }).map Prod.snd

end Visit

/-- The sessions after a visit, and the response. -/
def SessionStore.serve (store : SessionStore R) (visit : Visit R) : SessionStore R × Served R :=
  match visit.serveWith store with
  | .ok (after, response) => (after.store, .ok response)
  | .error fault => (store, .error fault)

/-- Sessions by their identifiers, and the number of entries that a new one remembers. -/
structure LiveSessions (R : Type) where
  capacity : Int
  find? : String → Option (Session R) := fun _ => none

namespace LiveSessions

def set (live : LiveSessions R) (id : String) (session? : Option (Session R)) : LiveSessions R :=
  { live with find? := fun other => if other = id then session? else live.find? other }

omit [Quantity R] in
@[simp]
theorem find?_set (live : LiveSessions R) (id other : String) (session? : Option (Session R)) :
    (live.set id session?).find? other = if other = id then session? else live.find? other := rfl

/-- The session with an identifier; a new one if there is none. -/
def resume (live : LiveSessions R) (id : String) : Except Fault (Session R) :=
  match live.find? id with
  | some session => .ok session
  | none => (Capacity.ofInt live.capacity).map Session.fresh

/-- Compiles a sentence in a live session. -/
def compile (live : LiveSessions R) (visit : Visit R) (body : CompileBody) :
    Except Fault (LiveSessions R × Server.Answer R) := do
  let sessionId := Server.sessionIdOf body visit.freshId
  let session ← live.resume sessionId
  let call := session.call (visit.attempt body)
  let compilation ← call.answer
  return (live.set sessionId (some call.session), { sessionId, compilation })

/-- The sessions after a visit, and the response. -/
def serve (live : LiveSessions R) (visit : Visit R) : LiveSessions R × Served R :=
  match visit.request.errand? with
  | some (.compile body) =>
      match live.compile visit body with
      | .ok (after, answer) => (after, .ok answer.response)
      | .error fault => (live, .error fault)
  | some (.look id) =>
      match live.find? id with
      | some session => (live, .ok (.ok (("id", .text id) :: session.toMembers)))
      | none => (live, .ok .sessionNotFound)
  | some (.forget id) =>
      match live.find? id with
      | some _ => (live.set id none, .ok (.ok [("success", .bool true)]))
      | none => (live, .ok .sessionNotFound)
  | none => (live, visit.aside)

end LiveSessions

section Visits

variable {State : Type}

/-- What some visits lead to. -/
def afterVisits (serve : State → Visit R → State × Served R) (start : State)
    (visits : List (Visit R)) : State :=
  visits.foldl (fun reached visit => (serve reached visit).1) start

/-- Visits with their responses. -/
def transcript (serve : State → Visit R → State × Served R) (start : State) :
    List (Visit R) → List (Visit R × Served R)
  | [] => []
  | visit :: rest =>
      (visit, (serve start visit).2) :: transcript serve (serve start visit).1 rest

omit [Quantity R]

variable (serve : State → Visit R → State × Served R) (start : State)

@[simp]
theorem afterVisits_append (earlier later : List (Visit R)) :
    afterVisits serve start (earlier ++ later) =
      afterVisits serve (afterVisits serve start earlier) later :=
  List.foldl_append

@[simp]
theorem map_fst_transcript (visits : List (Visit R)) :
    (transcript serve start visits).map Prod.fst = visits := by
  induction visits generalizing start with
  | nil => rfl
  | cons visit rest inductionHypothesis => rw [transcript, List.map_cons, inductionHypothesis]

theorem transcript_append (earlier later : List (Visit R)) :
    transcript serve start (earlier ++ later) =
      transcript serve start earlier ++
        transcript serve (afterVisits serve start earlier) later := by
  induction earlier generalizing start with
  | nil => rfl
  | cons visit earlier inductionHypothesis =>
      rw [List.cons_append, transcript, inductionHypothesis]
      rfl

end Visits

/-- What a visit asks of a server with a store. -/
theorem Visit.serveWith_eq (visit : Visit R) (store : SessionStore R) :
    visit.serveWith store =
      match visit.request.errand? with
      | some (.compile body) => do
          let (after, answer) ←
            (Server.mk visit.compiler store).compile body visit.clock visit.freshId
          return (after, answer.response)
      | some (.look id) => do
          let response ← (Server.mk visit.compiler store).showSession id
          return (Server.mk visit.compiler store, response)
      | some (.forget id) => .ok ((Server.mk visit.compiler store).forgetSession id)
      | none => visit.aside.map fun response => (Server.mk visit.compiler store, response) := by
  rw [ServerRequest.errand?, aside, serveWith, serveWith, Server.serve, Server.serve]
  cases Route.ofPath (Address.requestPath visit.request.path) with
  | none => rfl
  | some route =>
      cases route with
      | name =>
          by_cases allowed : visit.request.method = "GET"
          · simp [Route.methods, allowed, Except.map]
          · simp [Route.methods, allowed, Except.map]
      | phases =>
          by_cases allowed : visit.request.method = "GET"
          · cases Server.phaseList visit.compiler.registry with
            | error fault => simp [Route.methods, allowed, Except.map]
            | ok phases => simp [Route.methods, allowed, Except.map]
          · simp [Route.methods, allowed, Except.map]
      | compilation =>
          by_cases allowed : visit.request.method = "POST"
          · cases visit.request.body.bind CompileBody.ofValue? with
            | none => simp [Route.methods, allowed, Except.map]
            | some body => simp [Route.methods, allowed]
          · simp [Route.methods, allowed, Except.map]
      | session id =>
          by_cases look : visit.request.method = "GET"
          · simp [Route.methods, look]
          · by_cases forget : visit.request.method = "DELETE"
            · simp [Route.methods, forget]
            · simp [Route.methods, look, forget, Except.map]

namespace LiveSessions

variable {live : LiveSessions R} {visit : Visit R}

/-- What a visit can do to live sessions, and how it is served then. -/
inductive Serves (live : LiveSessions R) (visit : Visit R) : LiveSessions R → Served R → Prop where
  | aside (errand : visit.request.errand? = none) : Serves live visit live visit.aside
  | compiled {body : CompileBody} {session : Session R} {compilation : Compilation R}
      (errand : visit.request.errand? = some (.compile body))
      (resumed : live.resume (Server.sessionIdOf body visit.freshId) = .ok session)
      (answered : (session.call (visit.attempt body)).answer = .ok compilation) :
      Serves live visit
        (live.set (Server.sessionIdOf body visit.freshId)
          (some (session.call (visit.attempt body)).session))
        (.ok (Server.Answer.response ⟨Server.sessionIdOf body visit.freshId, compilation⟩))
  | brokenDown {body : CompileBody} {fault : Fault}
      (errand : visit.request.errand? = some (.compile body))
      (fails : live.compile visit body = .error fault) : Serves live visit live (.error fault)
  | shown {id : String} {session : Session R} (errand : visit.request.errand? = some (.look id))
      (found : live.find? id = some session) :
      Serves live visit live (.ok (.ok (("id", .text id) :: session.toMembers)))
  | forgotten {id : String} {session : Session R}
      (errand : visit.request.errand? = some (.forget id))
      (found : live.find? id = some session) :
      Serves live visit (live.set id none) (.ok (.ok [("success", .bool true)]))
  | notFound {id : String}
      (errand : visit.request.errand? = some (.look id) ∨
        visit.request.errand? = some (.forget id))
      (missing : live.find? id = none) : Serves live visit live (.ok .sessionNotFound)

theorem serves_serve (live : LiveSessions R) (visit : Visit R) :
    live.Serves visit (live.serve visit).1 (live.serve visit).2 := by
  rw [serve]
  cases errand : visit.request.errand? with
  | none => exact .aside errand
  | some wanted =>
      cases wanted with
      | compile body =>
          cases compiled : live.compile visit body with
          | error fault =>
              simp only [compiled]
              exact .brokenDown errand compiled
          | ok result =>
              simp only [compiled]
              rcases bind_eq_ok_iff.mp compiled with ⟨session, resumed, called⟩
              rcases bind_eq_ok_iff.mp called with ⟨compilation, answered, same⟩
              cases same
              exact .compiled errand resumed answered
      | look id =>
          cases found : live.find? id with
          | none =>
              simp only [found]
              exact .notFound (Or.inl errand) found
          | some session =>
              simp only [found]
              exact .shown errand found
      | forget id =>
          cases found : live.find? id with
          | none =>
              simp only [found]
              exact .notFound (Or.inr errand) found
          | some session =>
              simp only [found]
              exact .forgotten errand found

theorem serve_compile {body : CompileBody} {session : Session R}
    {compilation : Compilation R} (errand : visit.request.errand? = some (.compile body))
    (resumed : live.resume (Server.sessionIdOf body visit.freshId) = .ok session)
    (answered : (session.call (visit.attempt body)).answer = .ok compilation) :
    (live.serve visit).2 = .ok
      (Server.Answer.response ⟨Server.sessionIdOf body visit.freshId, compilation⟩) := by
  simp only [serve, errand, compile, resumed, ok_bind, answered, pure_eq_ok]

theorem serve_look {id : String}
    (errand : visit.request.errand? = some (.look id)) :
    live.serve visit =
      match live.find? id with
      | some session => (live, .ok (.ok (("id", .text id) :: session.toMembers)))
      | none => (live, .ok .sessionNotFound) := by
  simp only [serve, errand]

theorem serve_forget {id : String}
    (errand : visit.request.errand? = some (.forget id)) :
    live.serve visit =
      match live.find? id with
      | some _ => (live.set id none, .ok (.ok [("success", .bool true)]))
      | none => (live, .ok .sessionNotFound) := by
  simp only [serve, errand]

theorem find?_serve_of_apart (live : LiveSessions R) {id : String}
    (apart : visit.sessionId? ≠ some id) : (live.serve visit).1.find? id = live.find? id := by
  have serves := live.serves_serve visit
  generalize (live.serve visit).1 = after at serves ⊢
  generalize (live.serve visit).2 = response at serves
  cases serves with
  | aside errand => rfl
  | brokenDown errand fails => rfl
  | shown errand found => rfl
  | notFound errand missing => rfl
  | compiled errand resumed answered =>
      rw [Visit.sessionId?, errand] at apart
      rw [find?_set, if_neg]
      rintro rfl
      exact apart rfl
  | forgotten errand found =>
      rw [Visit.sessionId?, errand] at apart
      rw [find?_set, if_neg]
      rintro rfl
      exact apart rfl

theorem capacity_serve (live : LiveSessions R) (visit : Visit R) :
    (live.serve visit).1.capacity = live.capacity := by
  have serves := live.serves_serve visit
  generalize (live.serve visit).1 = after at serves ⊢
  generalize (live.serve visit).2 = response at serves
  cases serves with
  | aside errand => rfl
  | compiled errand resumed answered => rfl
  | brokenDown errand fails => rfl
  | shown errand found => rfl
  | forgotten errand found => rfl
  | notFound errand missing => rfl

theorem serve_congr {other : LiveSessions R} {visit : Visit R}
    (capacity : live.capacity = other.capacity)
    (same : ∀ id, visit.sessionId? = some id → live.find? id = other.find? id) :
    (live.serve visit).2 = (other.serve visit).2 := by
  rw [Visit.sessionId?] at same
  rw [serve, serve]
  cases errand : visit.request.errand? with
  | none => rfl
  | some wanted =>
      rw [errand] at same
      cases wanted with
      | compile body =>
          have resumed : live.resume (Server.sessionIdOf body visit.freshId) =
              other.resume (Server.sessionIdOf body visit.freshId) := by
            rw [resume, resume, same _ rfl, capacity]
          simp only [compile, resumed]
          cases other.resume (Server.sessionIdOf body visit.freshId) with
          | error fault => rfl
          | ok session =>
              simp only [ok_bind]
              cases (session.call (visit.attempt body)).answer with
              | error fault => rfl
              | ok compilation => rfl
      | look id =>
          simp only [same id rfl]
          cases other.find? id with
          | none => rfl
          | some session => rfl
      | forget id =>
          simp only [same id rfl]
          cases other.find? id with
          | none => rfl
          | some session => rfl

end LiveSessions

/-! ### Stores of live sessions -/

/-- A store holds the documents of live sessions. -/
structure SessionStore.Holds (store : SessionStore R) (live : LiveSessions R) : Prop where
  capacity : store.capacity = live.capacity
  contents : ∀ id, store.contents.lookup (key id) =
    (live.find? id).map fun session => .document session.toValue
  storable : ∀ id session, live.find? id = some session → session.Storable

namespace SessionStore.Holds

variable {store : SessionStore R} {live : LiveSessions R} {id : String}

theorem contains_eq (holds : store.Holds live) : store.contains id = (live.find? id).isSome := by
  rw [contains, holds.contents, Option.isSome_map]

theorem get_eq (holds : store.Holds live) : store.get id = live.resume id := by
  rw [get, holds.contents, LiveSessions.resume]
  cases found : live.find? id with
  | none =>
      rw [← holds.capacity, freshSession]
      cases Capacity.ofInt store.capacity with
      | error fault => rfl
      | ok capacity => rfl
  | some session => exact (holds.storable id session found).ofValue_toValue

theorem storable_of_resume {session : Session R} (holds : store.Holds live)
    (resumed : live.resume id = .ok session) : session.Storable := by
  rw [LiveSessions.resume] at resumed
  cases found : live.find? id with
  | none =>
      rw [found] at resumed
      cases made : Capacity.ofInt live.capacity with
      | error fault =>
          rw [made] at resumed
          contradiction
      | ok capacity =>
          rw [made] at resumed
          cases resumed
          exact Session.Storable.fresh made
  | some other =>
      rw [found] at resumed
      cases resumed
      exact holds.storable id session found

theorem save {session : Session R} (holds : store.Holds live) (storable : session.Storable) :
    (store.save id session).Holds (live.set id (some session)) where
  capacity := holds.capacity
  contents := by
    intro other
    rw [lookup_save, LiveSessions.find?_set]
    split
    · rfl
    · exact holds.contents other
  storable := by
    intro other found
    rw [LiveSessions.find?_set]
    split
    · rintro ⟨⟩
      exact storable
    · exact holds.storable other found

theorem erase (holds : store.Holds live) : (store.erase id).Holds (live.set id none) where
  capacity := holds.capacity
  contents := by
    intro other
    rw [lookup_erase, LiveSessions.find?_set]
    split
    · rfl
    · exact holds.contents other
  storable := by
    intro other found
    rw [LiveSessions.find?_set]
    split
    · rintro ⟨⟩
    · exact holds.storable other found

/-- A visit gets the same response, and leads to live sessions that the store holds again. -/
theorem serve (holds : store.Holds live) (visit : Visit R) :
    (store.serve visit).2 = (live.serve visit).2 ∧
      (store.serve visit).1.Holds (live.serve visit).1 := by
  -- Both servers read the request alike; they differ in where a session comes from and goes to.
  rw [SessionStore.serve, LiveSessions.serve, visit.serveWith_eq]
  cases visit.request.errand? with
  | none =>
      cases visit.aside with
      | error fault => exact ⟨rfl, holds⟩
      | ok response => exact ⟨rfl, holds⟩
  | some errand =>
      cases errand with
      | compile body =>
          simp only [Server.compile, LiveSessions.compile, holds.get_eq]
          cases resumed : live.resume (Server.sessionIdOf body visit.freshId) with
          | error fault => exact ⟨rfl, holds⟩
          | ok session =>
              have storable := visit.compiler.storable_compile body.request session visit.clock
                (holds.storable_of_resume resumed)
              simp only [ok_bind, Session.call, Visit.attempt]
              cases (visit.compiler.compile body.request session visit.clock).answer with
              | error fault => exact ⟨rfl, holds⟩
              | ok compilation => exact ⟨rfl, holds.save storable⟩
      | look id =>
          simp only [Server.showSession, holds.contains_eq, holds.get_eq, LiveSessions.resume]
          cases live.find? id with
          | none => exact ⟨rfl, holds⟩
          | some session => exact ⟨rfl, holds⟩
      | forget id =>
          simp only [Server.forgetSession, holds.contains_eq]
          cases live.find? id with
          | none => exact ⟨rfl, holds⟩
          | some session => exact ⟨rfl, holds.erase⟩

/-- So do any number of visits. -/
theorem transcript_eq (holds : store.Holds live) (visits : List (Visit R)) :
    transcript SessionStore.serve store visits = transcript LiveSessions.serve live visits ∧
      (afterVisits SessionStore.serve store visits).Holds
        (afterVisits LiveSessions.serve live visits) := by
  induction visits generalizing store live with
  | nil => exact ⟨rfl, holds⟩
  | cons visit rest inductionHypothesis =>
      rcases holds.serve visit with ⟨same, holdsNext⟩
      rcases inductionHypothesis holdsNext with ⟨sameRest, holdsLast⟩
      refine ⟨?_, holdsLast⟩
      rw [transcript, transcript, same, sameRest]

theorem empty (capacity : Int) : Holds (R := R) { capacity } { capacity } where
  capacity := rfl
  contents _ := rfl
  storable _ _ := by rintro ⟨⟩

end SessionStore.Holds

end SentenceGraph
