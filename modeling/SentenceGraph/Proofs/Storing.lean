import SentenceGraph.Proofs.Compiling
import SentenceGraph.Proofs.Remembering
import SentenceGraph.Session.Store

/-!
# Sessions in the store

A session is stored as a document. Reading it back gives the same session, provided that its
capacity can be read back and that its entries fit into the memory, since others would be dropped.
New sessions are such sessions, and compiling leads to such sessions only.

Each session has a key of its own, so that storing or forgetting one leaves the others alone.
-/

namespace SentenceGraph

open Fallible

variable {R : Type} [Quantity R]

/-- A capacity that was made is read back from its document form. -/
theorem Capacity.ofValue_toValue {number : Int} {capacity : Capacity}
    (made : ofInt number = .ok capacity) : ofValue (capacity.toValue : Value R) = .ok capacity := by
  rcases ofInt_eq_ok_iff.mp made with ⟨positive, _, rfl⟩
  have same : ((number.toNat : Nat) : Int) = number := Int.toNat_of_nonneg (by omega)
  rw [toValue, ofValue, same, made]

/-- Only a count and the value `true` are read as a capacity. -/
theorem Capacity.ofValue_cases {value : Value R} {capacity : Capacity}
    (read : ofValue value = .ok capacity) :
    capacity = .truth ∨ ∃ number, ofInt number = .ok capacity := by
  cases value with
  | int number => exact Or.inr ⟨number, read⟩
  | bool truth =>
      cases truth with
      | true => exact Or.inl (Except.ok.inj read).symm
      | false => contradiction
  | real quantity =>
      rw [ofValue] at read
      split at read
      · contradiction
      · contradiction
  | _ => contradiction

theorem Capacity.ofValue_toValue_of_read {value : Value R} {capacity : Capacity}
    (read : ofValue value = .ok capacity) : ofValue (capacity.toValue : Value R) = .ok capacity := by
  rcases ofValue_cases read with rfl | ⟨number, made⟩
  · rfl
  · exact ofValue_toValue made

theorem Capacity.size_pos_of_read {value : Value R} {capacity : Capacity}
    (read : ofValue value = .ok capacity) : 1 ≤ capacity.size := by
  rcases ofValue_cases read with rfl | ⟨number, made⟩
  · exact Nat.le_refl 1
  · rcases ofInt_eq_ok_iff.mp made with ⟨positive, _, rfl⟩
    rw [size]
    omega

omit [Quantity R] in
theorem ContextMemory.readEntries_toValues (memory : ContextMemory R) :
    readEntries (.list memory.toValues) = .ok memory.entries := by
  have readBack : ∀ entry : ContextEntry R, ContextEntry.ofValue entry.toValue = .ok entry := by
    intro entry
    rfl
  rw [readEntries, Value.elements?, toValues]
  apply mapM_eq_ok_iff.mpr
  rw [List.forall₂_map_left_iff, List.forall₂_same]
  intro entry _
  exact readBack entry

/-- A memory that is not overfull is read back, if its capacity is. -/
theorem ContextMemory.ofValue_toValues {memory : ContextMemory R}
    (capacity : Capacity.ofValue (memory.capacity.toValue : Value R) = .ok memory.capacity)
    (fits : memory.entries.length ≤ memory.capacity.size) :
    ofValue (.list memory.toValues) memory.capacity.toValue = .ok memory := by
  have whole : ofEntries memory.capacity memory.entries = memory := by
    rw [ofEntries, lastItems_eq_self fits]
  rw [ofValue, readEntries_toValues, ok_bind, capacity, ok_bind, whole, pure_eq_ok]

namespace Session

/-- A session that is read back as it was stored. -/
structure Storable (session : Session R) : Prop where
  capacity :
    Capacity.ofValue (session.memory.capacity.toValue : Value R) = .ok session.memory.capacity
  fits : session.memory.entries.length ≤ session.memory.capacity.size

theorem Storable.ofValue_toValue {session : Session R} (storable : session.Storable) :
    ofValue session.toValue = .ok session := by
  have memory := ContextMemory.ofValue_toValues storable.capacity storable.fits
  have analytics : Analytics.ofValue session.analytics.toValue = .ok session.analytics := rfl
  calc ofValue session.toValue = (do
        let memory ←
          ContextMemory.ofValue (.list session.memory.toValues) session.memory.capacity.toValue
        let analytics ← Analytics.ofValue session.analytics.toValue
        return { memory, analytics }) := rfl
    _ = .ok session := by rw [memory, ok_bind, analytics, ok_bind, pure_eq_ok]

theorem Storable.fresh {number : Int} {capacity : Capacity}
    (made : Capacity.ofInt number = .ok capacity) :
    (Session.fresh capacity : Session R).Storable where
  capacity := Capacity.ofValue_toValue made
  fits := ContextMemory.length_ofEntries_le capacity []

theorem memory_of_record {session next : Session R} {duration : R} {success : Bool}
    (recorded : session.record duration success = .ok next) : next.memory = session.memory := by
  rcases bind_eq_ok_iff.mp recorded with ⟨totals, _, same⟩
  cases same
  rfl

end Session

namespace Compiler

variable (compiler : Compiler R) (request : Request) (session : Session R) (clock : Clock R)

/-- A call leaves the memory of the session as it was, or adds an entry to it. -/
theorem memory_of_compile :
    (compiler.compile request session clock).session.memory = session.memory ∨
      ∃ entry, (compiler.compile request session clock).session.memory =
        session.memory.append entry := by
  simp only [compile]
  split
  · left
    simp only [finishFailed]
    split
    · rfl
    · rename_i recorded
      exact Session.memory_of_record recorded
  · simp only [finishComplete]
    split
    · left
      rfl
    · right
      rename_i entry found
      split
      · exact ⟨entry, rfl⟩
      · rename_i recorded
        exact ⟨entry, Session.memory_of_record recorded⟩

theorem storable_compile (storable : session.Storable) :
    (compiler.compile request session clock).session.Storable := by
  rcases memory_of_compile compiler request session clock with same | ⟨entry, appended⟩
  · constructor
    · rw [same]
      exact storable.capacity
    · rw [same]
      exact storable.fits
  · constructor
    · rw [appended]
      exact storable.capacity
    · rw [appended]
      exact ContextMemory.length_ofEntries_le _ _

end Compiler

namespace SessionStore

omit [Quantity R]

theorem key_inj {id other : String} : key id = key other ↔ id = other := by
  rw [key, key, ← String.toList_inj, String.toList_append, String.toList_append,
    List.append_cancel_left_eq, String.toList_inj]

theorem lookup_filter_ne {Entry : Type} (entries : List (String × Entry))
    (dropped wanted : String) :
    (entries.filter (·.1 != dropped)).lookup wanted =
      if wanted = dropped then none else entries.lookup wanted := by
  induction entries with
  | nil => simp
  | cons entry entries inductionHypothesis =>
      rcases entry with ⟨name, value⟩
      by_cases here : wanted = name
      · subst here
        by_cases there : wanted = dropped
        · simpa [there] using inductionHypothesis
        · simp [there]
      · have elsewhere : (wanted == name) = false := beq_false_of_ne here
        rw [List.lookup_cons, elsewhere, ← inductionHypothesis, List.filter_cons]
        split
        · rw [List.lookup_cons, elsewhere]
        · rfl

variable (store : SessionStore R) (id wanted : String)

theorem lookup_erase :
    (store.erase id).contents.lookup (key wanted) =
      if wanted = id then none else store.contents.lookup (key wanted) := by
  rw [erase, lookup_filter_ne]
  simp only [key_inj]

theorem lookup_save (session : Session R) :
    (store.save id session).contents.lookup (key wanted) =
      if wanted = id then some (.document session.toValue)
      else store.contents.lookup (key wanted) := by
  rw [save, put, List.lookup_append, lookup_erase]
  by_cases same : wanted = id
  · simp [same]
  · have other : (key wanted == key id) = false := by simp [key_inj, same]
    simp [same, List.lookup_cons, other]

end SessionStore

end SentenceGraph
