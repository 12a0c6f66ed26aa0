import SentenceGraph.Proofs.Storing

/-!
# Memories forget the beginning

A memory may be told entries, be cleared, or be replaced by one that is read from a document. Beside
it stands the log of all entries since then, which forgets nothing (`MemoryLog`). The memory is the
end of its log, as long as its capacity allows, and so are the entries that it is asked for.

The step is that the memory of a log stays the memory of its log (`perform_ofEntries`); a document
that cannot be read changes neither. What is said of the newest entry needs that a memory has room
for one, which holds of every capacity that was made or read.
-/

namespace SentenceGraph

open Fallible

variable {R : Type}

/-- What is done to a memory. -/
inductive MemoryStep (R : Type) where
  | append (entry : ContextEntry R)
  | clear
  /-- The memory of a document form takes the place of the one so far. -/
  | load (document capacity : Value R)

/-- All entries since a memory was last made or cleared. -/
structure MemoryLog (R : Type) where
  capacity : Capacity
  entries : List (ContextEntry R)

namespace MemoryLog

variable [Quantity R]

/-- A log after a step. -/
def perform (log : MemoryLog R) : MemoryStep R → MemoryLog R
  | .append entry => { log with entries := log.entries ++ [entry] }
  | .clear => { log with entries := [] }
  | .load document capacity =>
      match ContextMemory.readEntries document, Capacity.ofValue capacity with
      | .ok entries, .ok size => { capacity := size, entries }
      | _, _ => log

def after (log : MemoryLog R) (steps : List (MemoryStep R)) : MemoryLog R :=
  steps.foldl perform log

end MemoryLog

namespace ContextMemory

/-- A new memory with some entries; not every number is a capacity. -/
def make (number : Int) (entries : List (ContextEntry R)) : Except Fault (ContextMemory R) := do
  return ofEntries (← Capacity.ofInt number) entries

variable [Quantity R]

/-- A memory after a step. A document that cannot be read leaves it as it was. -/
def perform (memory : ContextMemory R) : MemoryStep R → ContextMemory R
  | .append entry => memory.append entry
  | .clear => memory.clear
  | .load document capacity =>
      match ofValue document capacity with
      | .ok loaded => loaded
      | .error _ => memory

def after (memory : ContextMemory R) (steps : List (MemoryStep R)) : ContextMemory R :=
  steps.foldl perform memory

theorem ofValue_eq (document capacity : Value R) :
    ofValue document capacity =
      match readEntries document, Capacity.ofValue capacity with
      | .ok entries, .ok size => .ok (ofEntries size entries)
      | .ok _, .error fault => .error fault
      | .error fault, _ => .error fault := by
  rw [ofValue]
  cases readEntries document with
  | error fault => rfl
  | ok entries =>
      cases Capacity.ofValue capacity with
      | error fault => rfl
      | ok size => rfl

/-- The memory of a log stays the memory of its log. -/
theorem perform_ofEntries (log : MemoryLog R) (step : MemoryStep R) :
    (ofEntries log.capacity log.entries).perform step =
      ofEntries (log.perform step).capacity (log.perform step).entries := by
  cases step with
  | append entry => exact append_ofEntries log.capacity log.entries entry
  | clear => simp [perform, MemoryLog.perform, clear, ofEntries, lastItems]
  | load document capacity =>
      rw [perform, MemoryLog.perform, ofValue_eq]
      cases readEntries document with
      | error fault => rfl
      | ok entries =>
          cases Capacity.ofValue capacity with
          | error fault => rfl
          | ok size => rfl

theorem after_ofEntries (log : MemoryLog R) (steps : List (MemoryStep R)) :
    (ofEntries log.capacity log.entries).after steps =
      ofEntries (log.after steps).capacity (log.after steps).entries := by
  induction steps generalizing log with
  | nil => rfl
  | cons step steps inductionHypothesis =>
      have next := inductionHypothesis (log.perform step)
      rw [← perform_ofEntries] at next
      exact next

end ContextMemory

/-- A capacity that was made or read is kept or replaced by another one that was read. -/
theorem MemoryLog.exists_read_after [Quantity R] (log : MemoryLog R) (steps : List (MemoryStep R))
    (read : ∃ value : Value R, Capacity.ofValue value = .ok log.capacity) :
    ∃ value : Value R, Capacity.ofValue value = .ok (log.after steps).capacity := by
  induction steps generalizing log with
  | nil => exact read
  | cons step steps inductionHypothesis =>
      apply inductionHypothesis (log.perform step)
      cases step with
      | append entry => exact read
      | clear => exact read
      | load document capacity =>
          rw [perform]
          split
          · rename_i sized
            exact ⟨capacity, sized⟩
          · exact read

namespace ContextMemory

variable [Quantity R]

/-- A memory is the end of a log: as many entries as it has room for, and what it is asked for is
the end of these. -/
structure IsEndOf (memory : ContextMemory R) (log : MemoryLog R) : Prop where
  capacity : memory.capacity = log.capacity
  suffix : memory.entries <:+ log.entries
  length : memory.entries.length = min log.capacity.size log.entries.length
  bounded : memory.entries.length ≤ memory.capacity.size
  last : memory.last? = log.entries.getLast?
  recent_suffix : ∀ count, memory.recent count <:+ memory.entries
  recent_length : ∀ count : Int,
    ((memory.recent count).length : Int) = max 0 (min count memory.entries.length)
  restored : ofValue (.list memory.toValues) memory.capacity.toValue = .ok memory

theorem isEndOf_ofEntries {log : MemoryLog R} {value : Value R}
    (read : Capacity.ofValue value = .ok log.capacity) :
    (ofEntries log.capacity log.entries).IsEndOf log where
  capacity := rfl
  suffix := lastItems_suffix _ _
  length := length_lastItems _ _
  bounded := length_ofEntries_le _ _
  last := getLast?_lastItems (Capacity.size_pos_of_read read) _
  recent_suffix count := lastItems_suffix _ _
  recent_length count := by
    rw [recent, length_lastItems]
    omega
  restored :=
    ofValue_toValues (Capacity.ofValue_toValue_of_read read) (length_ofEntries_le _ _)

/-- Entries, or their document forms, make a memory unless the number for its capacity is below one.
Whatever is done to this memory, it is the end of the log of its entries. -/
theorem steps_follow_log (number : Int) (within : number ≤ Capacity.greatest)
    (entries : List (ContextEntry R)) :
    ofValue (.list (entries.map ContextEntry.toValue)) (.int number) = make number entries ∧
      (number < 1 →
        make number entries = .error (.capacityTooSmall (Decimal.integerText number))) ∧
      (1 ≤ number → ∃ memory, make number entries = .ok memory ∧ ∀ steps,
        (memory.after steps).IsEndOf
          (MemoryLog.after ⟨.count number.toNat, entries⟩ steps)) := by
  have sized : Capacity.ofValue (.int number : Value R) = Capacity.ofInt number := rfl
  refine ⟨?_, ?_, ?_⟩
  · have readBack : readEntries (.list (entries.map ContextEntry.toValue)) = .ok entries :=
      readEntries_toValues ⟨.default, entries⟩
    rw [ofValue, readBack, ok_bind, sized, make]
  · intro small
    rw [make, Capacity.ofInt, if_pos small, error_bind]
  · intro positive
    have made := Capacity.ofInt_eq_ok_iff.mpr ⟨positive, within, rfl⟩
    refine ⟨ofEntries (.count number.toNat) entries, ?_, ?_⟩
    · rw [make, made, ok_bind, pure_eq_ok]
    · intro steps
      have same := after_ofEntries ⟨.count number.toNat, entries⟩ steps
      rcases MemoryLog.exists_read_after ⟨.count number.toNat, entries⟩ steps
        ⟨.int number, sized.trans made⟩ with ⟨value, read⟩
      rw [same]
      exact isEndOf_ofEntries read

/-- An entry for a subject. -/
def entryFor (subject : String) : ContextEntry Float where
  subject := .text subject
  action := .null
  timestamp := .int 0

/-- An entry too many, a document that cannot be read, another one, and an entry too many again. -/
def crowdingSteps : List (MemoryStep Float) :=
  [.append (entryFor "dog"), .load .null (.int 3), .clear,
    .load (.list [(entryFor "cat").toValue, (entryFor "owl").toValue]) (.int 1),
    .append (entryFor "hen")]

theorem steps_follow_log_crowded :
    (1 : Int) ≤ Capacity.greatest ∧
      ∃ memory, make 1 [entryFor "cow", entryFor "pig"] = .ok memory ∧
        (memory.after crowdingSteps).IsEndOf
          ⟨.count 1, [entryFor "cat", entryFor "owl", entryFor "hen"]⟩ := by
  have within : (1 : Int) ≤ Capacity.greatest := by decide
  rcases (steps_follow_log 1 within [entryFor "cow", entryFor "pig"]).2.2 (Int.le_refl 1) with
    ⟨memory, made, follows⟩
  exact ⟨within, memory, made, follows crowdingSteps⟩

end ContextMemory

end SentenceGraph
