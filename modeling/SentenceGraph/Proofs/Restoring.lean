import SentenceGraph.Proofs.LiveSessions

/-!
# Stored sessions are restored

A session that is written as a document and read again is the same session. Any other document that
can be read as a session is brought into a normal form by writing the session: it holds the last
entries of the document, and reading and writing it again changes nothing.

So a store is a map from identifiers to sessions. Under an identifier it has the session that was
saved there last, unless it was erased since then (`lastSaved`), whatever was done to others. The
induction is on the steps: a store that holds what the steps so far have left replies to the next
one as that tells, and holds what the step leaves.
-/

namespace SentenceGraph

open Fallible

variable {R : Type} [Quantity R]

namespace Session

/-- A session of a memory that can be made and is not overfull. -/
structure IsRegular (session : Session R) : Prop where
  positive : 1 ≤ session.memory.capacity.size
  bounded : (session.memory.capacity.size : Int) ≤ Capacity.greatest
  fits : session.memory.entries.length ≤ session.memory.capacity.size

theorem IsRegular.storable {session : Session R} (regular : session.IsRegular) :
    session.Storable where
  capacity := by
    have positive := regular.positive
    have bounded := regular.bounded
    cases sized : session.memory.capacity with
    | truth => rfl
    | count size =>
        rw [sized, Capacity.size] at positive bounded
        apply Capacity.ofValue_toValue
        exact Capacity.ofInt_eq_ok_iff.mpr ⟨Int.ofNat_le.mpr positive, bounded, rfl⟩
  fits := regular.fits

/-- What is read of a document as a session: its last entries, as many as its capacity allows. -/
theorem exists_entries_of_ofValue {members : List (String × Value R)} {session : Session R}
    (read : ofValue (.object members) = .ok session) :
    ∃ entries,
      ContextMemory.readEntries ((Value.member? members "context_memory").getD (.list [])) =
        .ok entries ∧
      session.memory.entries = lastItems session.memory.capacity.size entries ∧
      ∃ value : Value R, Capacity.ofValue value = .ok session.memory.capacity := by
  rcases bind_eq_ok_iff.mp read with ⟨_, same, readMemory⟩
  cases same
  rcases bind_eq_ok_iff.mp readMemory with ⟨memory, remembered, readTotals⟩
  rcases bind_eq_ok_iff.mp readTotals with ⟨totals, _, made⟩
  rcases bind_eq_ok_iff.mp remembered with ⟨entries, listed, sizing⟩
  rcases bind_eq_ok_iff.mp sizing with ⟨capacity, sized, whole⟩
  cases made
  cases whole
  exact ⟨entries, listed, rfl, _, sized⟩

theorem storable_of_ofValue {members : List (String × Value R)} {session : Session R}
    (read : ofValue (.object members) = .ok session) : session.Storable := by
  rcases exists_entries_of_ofValue read with ⟨entries, _, last, value, sized⟩
  constructor
  · exact Capacity.ofValue_toValue_of_read sized
  · rw [last]
    exact ContextMemory.length_ofEntries_le _ _

end Session

/-- What is asked of a store. -/
inductive StoreStep (R : Type) where
  | save (id : String) (session : Session R)
  | erase (id : String)
  | get (id : String)
  | contains (id : String)

/-- What a store replies. -/
inductive StoreReply (R : Type) where
  | done
  | session (found : Except Fault (Session R))
  | contained (present : Bool)

namespace SessionStore

/-- A store after a step, and its reply. -/
def perform (store : SessionStore R) : StoreStep R → SessionStore R × StoreReply R
  | .save id session => (store.save id session, .done)
  | .erase id => (store.erase id, .done)
  | .get id => (store, .session (store.get id))
  | .contains id => (store, .contained (store.contains id))

/-- The replies to some steps. -/
def replies (store : SessionStore R) : List (StoreStep R) → List (StoreReply R)
  | [] => []
  | step :: rest => (store.perform step).2 :: replies (store.perform step).1 rest

end SessionStore

namespace StoreStep

omit [Quantity R] in
/-- What a step leaves under an identifier. -/
def leave (id : String) (session? : Option (Session R)) : StoreStep R → Option (Session R)
  | save other session => if id = other then some session else session?
  | erase other => if id = other then none else session?
  | get _ => session?
  | contains _ => session?

omit [Quantity R] in
/-- The session that was saved last under an identifier, unless it was erased since then. -/
def lastSaved (id : String) (steps : List (StoreStep R)) : Option (Session R) :=
  steps.foldl (leave id) none

/-- The session of an identifier that is not in use: an empty one of the capacity of the store. There
is none if no memory has this capacity. -/
def vacant (capacity : Int) : Except Fault (Session R) :=
  if capacity < 1 then .error (.capacityTooSmall (Decimal.integerText capacity))
  else if Capacity.greatest < capacity then .error .capacityTooLarge
  else .ok { memory := { capacity := .count capacity.toNat, entries := [] }, analytics := .initial }

/-- The reply that the steps so far call for. -/
def replyAfter (capacity : Int) (earlier : List (StoreStep R)) : StoreStep R → StoreReply R
  | save _ _ => .done
  | erase _ => .done
  | get id =>
      .session
        (match lastSaved id earlier with
        | some session => .ok session
        | none => vacant capacity)
  | contains id => .contained (lastSaved id earlier).isSome

end StoreStep

/-- The sessions that some steps leave. -/
def LiveSessions.left (capacity : Int) (steps : List (StoreStep R)) : LiveSessions R where
  capacity
  find? id := StoreStep.lastSaved id steps

namespace SessionStore

variable {store : SessionStore R} {capacity : Int} {earlier : List (StoreStep R)}

theorem fresh_eq_vacant :
    (Capacity.ofInt capacity).map Session.fresh =
      (StoreStep.vacant capacity : Except Fault (Session R)) := by
  rw [Capacity.ofInt, StoreStep.vacant]
  split
  · rfl
  · split
    · rfl
    · simp [Except.map, Session.fresh, ContextMemory.empty, ContextMemory.ofEntries, lastItems]

theorem resume_left (id : String) :
    (LiveSessions.left capacity earlier).resume id =
      match StoreStep.lastSaved id earlier with
      | some session => .ok session
      | none => StoreStep.vacant capacity := by
  cases found : StoreStep.lastSaved id earlier with
  | some session => simp only [LiveSessions.resume, LiveSessions.left, found]
  | none => simp only [LiveSessions.resume, LiveSessions.left, found, fresh_eq_vacant]

/-- One step: the reply is what the steps before it call for, and the store holds what they and this
one leave. -/
theorem Holds.perform (holds : store.Holds (.left capacity earlier)) (step : StoreStep R)
    (storable : ∀ id session, step = .save id session → session.Storable) :
    (store.perform step).2 = step.replyAfter capacity earlier ∧
      (store.perform step).1.Holds (.left capacity (earlier ++ [step])) := by
  have next : LiveSessions.left capacity (earlier ++ [step]) =
      { capacity, find? := fun id => step.leave id (StoreStep.lastSaved id earlier) } := by
    simp only [LiveSessions.left, StoreStep.lastSaved, List.foldl_append, List.foldl_cons,
      List.foldl_nil]
  rw [next]
  cases step with
  | save id session => exact ⟨rfl, holds.save (storable id session rfl)⟩
  | erase id => exact ⟨rfl, holds.erase⟩
  | get id =>
      refine ⟨?_, holds⟩
      rw [SessionStore.perform, holds.get_eq, resume_left]
      rfl
  | contains id =>
      refine ⟨?_, holds⟩
      rw [SessionStore.perform, holds.contains_eq]
      rfl

theorem Holds.replies (holds : store.Holds (.left capacity earlier)) (steps : List (StoreStep R))
    (storable : ∀ id session, .save id session ∈ steps → session.Storable) (index : Nat) :
    (store.replies steps)[index]? =
      steps[index]?.map (StoreStep.replyAfter capacity (earlier ++ steps.take index)) := by
  induction steps generalizing store earlier index with
  | nil => rfl
  | cons step steps inductionHypothesis =>
      have here : ∀ id session, step = .save id session → session.Storable := by
        rintro id session rfl
        exact storable id session (by simp)
      rcases holds.perform step here with ⟨reply, holdsNext⟩
      cases index with
      | zero => simp [SessionStore.replies, reply]
      | succ index =>
          have later := inductionHypothesis holdsNext
            (fun id session saved => storable id session (List.mem_cons_of_mem _ saved)) index
          simpa [SessionStore.replies] using later

/-- A regular session is restored from its document form, and from a store. Whatever document is read
as a session, its session is written in a normal form, which holds the last entries of the document.
A store that starts empty replies to any steps as a map from identifiers to sessions does. -/
theorem restores_saved :
    (∀ session : Session R, session.IsRegular →
      Session.ofValue session.toValue = .ok session ∧
        ∀ (store : SessionStore R) (id : String), (store.save id session).get id = .ok session) ∧
    (∀ (members : List (String × Value R)) (session : Session R),
      Session.ofValue (.object members) = .ok session →
        (Session.ofValue session.toValue).map Session.toValue = .ok session.toValue ∧
        ∃ entries last,
          ContextMemory.readEntries ((Value.member? members "context_memory").getD (.list [])) =
            .ok entries ∧
          last <:+ entries ∧ last.length = min session.memory.capacity.size entries.length ∧
          Value.member? session.toMembers "context_memory" =
            some (.list (last.map ContextEntry.toValue))) ∧
    ∀ (capacity : Int) (steps : List (StoreStep R)),
      (∀ id session, .save id session ∈ steps → session.IsRegular) →
        ∀ index, (replies { capacity } steps)[index]? =
          steps[index]?.map (StoreStep.replyAfter capacity (steps.take index)) := by
  refine ⟨?_, ?_, ?_⟩
  · intro session regular
    refine ⟨regular.storable.ofValue_toValue, ?_⟩
    intro store id
    rw [get, lookup_save, if_pos rfl]
    exact regular.storable.ofValue_toValue
  · intro members session read
    rcases Session.exists_entries_of_ofValue read with ⟨entries, listed, last, _⟩
    refine ⟨?_, entries, session.memory.entries, listed, ?_, ?_, rfl⟩
    · rw [(Session.storable_of_ofValue read).ofValue_toValue]
      rfl
    · rw [last]
      exact lastItems_suffix _ _
    · rw [last, length_lastItems]
  · intro capacity steps regular index
    have start : ({ capacity } : SessionStore R).Holds (.left capacity []) := Holds.empty capacity
    have all := start.replies steps (fun id session saved => (regular id session saved).storable)
    simpa using all index

/-- A session with unusual totals. -/
def oddSession : Session Float where
  memory := { capacity := .count 2, entries := [⟨.text "dog", .null, .int 0⟩] }
  analytics := { compilations := .bool true, meanTime := .null, successRate := .text "all" }

/-- A stored document with more entries than its capacity allows. -/
def overfull : List (String × Value Float) :=
  [("capacity", .int 1), ("context_memory", .list [.object [], .object [("subject", .text "cat")]])]

/-- Two sessions are saved, and one of them is erased. -/
def mixedSteps : List (StoreStep Float) :=
  [.save "one" oddSession, .save "two" oddSession, .erase "one", .contains "one", .get "two"]

theorem restores_saved_mixed :
    oddSession.IsRegular ∧ Session.ofValue oddSession.toValue = .ok oddSession ∧
      (∃ session, Session.ofValue (.object overfull) = .ok session ∧
        (Session.ofValue session.toValue).map Session.toValue = .ok session.toValue) ∧
      (replies { capacity := 5 } mixedSteps)[3]? = some (.contained false) ∧
      (replies { capacity := 5 } mixedSteps)[4]? = some (.session (.ok oddSession)) := by
  have regular : oddSession.IsRegular := ⟨by decide, by decide, by decide⟩
  have allRegular : ∀ id session, .save id session ∈ mixedSteps → session.IsRegular := by
    intro id session saved
    have same : session = oddSession := by
      simp only [mixedSteps, List.mem_cons, StoreStep.save.injEq, reduceCtorEq, List.not_mem_nil,
        or_false] at saved
      rcases saved with ⟨_, same⟩ | ⟨_, same⟩
      · exact same
      · exact same
    rw [same]
    exact regular
  refine ⟨regular, (restores_saved.1 oddSession regular).1, ⟨_, rfl, ?_⟩, ?_, ?_⟩
  · exact (restores_saved.2.1 overfull _ rfl).1
  · exact restores_saved.2.2 5 mixedSteps allRegular 3
  · exact restores_saved.2.2 5 mixedSteps allRegular 4

end SessionStore

end SentenceGraph
