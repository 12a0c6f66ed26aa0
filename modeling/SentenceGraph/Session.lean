import SentenceGraph.Memory
import SentenceGraph.Value.Number

/-!
# Sessions

A session belongs to one user: the context memory of the sentences so far, and running totals over
all compilations. Sessions can be stored as documents and read back.
-/

namespace SentenceGraph

/-- Running totals: the number of compilations, their mean duration in milliseconds and the
percentage of successes. Stored totals may hold any values. -/
structure Analytics (R : Type) where
  compilations : Value R
  meanTime : Value R
  successRate : Value R
deriving Repr

/-- The state of one user. -/
structure Session (R : Type) where
  memory : ContextMemory R
  analytics : Analytics R
deriving Repr

variable {R : Type} [Quantity R]

namespace Analytics

/-- The totals before the first compilation. -/
def initial : Analytics R where
  compilations := .int 0
  meanTime := .real 0.0
  successRate := .real 100.0

/-- The mean over one more record, from the mean over `count` records. -/
def nextMean (mean count : Number R) (record : R) : Except Fault R := do
  let total ← mean.times count
  Number.divide ((← total.quantity) + record) count.next

/-- The number that a total is. -/
def total (value : Value R) : Except Fault (Number R) :=
  match Number.ofValue? value with
  | some number => .ok number
  | none => .error .wrongShape

/-- The totals after one more compilation. -/
def record (analytics : Analytics R) (duration : R) (success : Bool) :
    Except Fault (Analytics R) := do
  let count ← total analytics.compilations
  let meanTime ← nextMean (← total analytics.meanTime) count duration
  let successRate ← nextMean (← total analytics.successRate) count (if success then 100.0 else 0.0)
  return {
    compilations := count.next.toValue
    meanTime := .real meanTime
    successRate := .real successRate }

omit [Quantity R] in
/-- The document form of the totals. -/
def toValue (analytics : Analytics R) : Value R :=
  .object
    [("total_compilations", analytics.compilations), ("avg_time_ms", analytics.meanTime),
      ("success_rate", analytics.successRate)]

/-- The totals of a document form; missing parts are as before the first compilation. -/
def ofValue (value : Value R) : Except Fault (Analytics R) := do
  let members ← value.members?
  let part (key : String) (default : Value R) := (Value.member? members key).getD default
  return {
    compilations := part "total_compilations" initial.compilations
    meanTime := part "avg_time_ms" initial.meanTime
    successRate := part "success_rate" initial.successRate }

end Analytics

namespace Session

/-- A session without history. -/
def fresh (capacity : Capacity) : Session R where
  memory := .empty capacity
  analytics := .initial

/-- Counts a compilation. -/
def record (session : Session R) (duration : R) (success : Bool) : Except Fault (Session R) := do
  return { session with analytics := ← session.analytics.record duration success }

def remember (session : Session R) (entry : ContextEntry R) : Session R :=
  { session with memory := session.memory.append entry }

omit [Quantity R] in
def toMembers (session : Session R) : List (String × Value R) :=
  [("context_memory", .list session.memory.toValues),
    ("capacity", session.memory.capacity.toValue), ("analytics", session.analytics.toValue)]

omit [Quantity R] in
def toValue (session : Session R) : Value R :=
  .object session.toMembers

/-- The session of a document form. -/
def ofValue (value : Value R) : Except Fault (Session R) := do
  let members ← value.members?
  let part (key : String) (default : Value R) := (Value.member? members key).getD default
  let memory ←
    ContextMemory.ofValue (part "context_memory" (.list [])) (part "capacity" Capacity.default.toValue)
  let analytics ← Analytics.ofValue (part "analytics" (.object []))
  return { memory, analytics }

end Session

end SentenceGraph
