import SentenceGraph.Phase.Plan
import SentenceGraph.Value

/-!
# Running phases

Planned phases are run one after the other. Each gets the request and the results of the phases that
it depends on. The run ends with the first phase that refuses or breaks down; the phases after it
stay pending. Every change of a status is an event.
-/

namespace SentenceGraph

/-- How far a phase has come. -/
inductive Status where
  | pending
  | processing
  | complete
  | failed
deriving DecidableEq, Repr

def Status.name : Status → String
  | .pending => "pending"
  | .processing => "processing"
  | .complete => "complete"
  | .failed => "error"

structure PhaseStatus where
  /-- The place in the plan, from one; the entry that closes a failed compilation has none. -/
  position : Option Nat
  id : String
  name : String
  status : Status := .pending
  details : String := ""
deriving DecidableEq, Repr

def PhaseStatus.toValue {R : Type} (phase : PhaseStatus) : Value R :=
  .object
    [("phase", match phase.position with
        | some position => .ofNat position
        | none => .text "error"),
      ("id", .text phase.id), ("name", .text phase.name), ("status", .text phase.status.name),
      ("details", .text phase.details)]

/-- What a phase that was run left behind. -/
structure PhaseResult (Data : Type) where
  success : Bool
  data : Option Data
  message : String

/-- What a run left behind. -/
structure Run (Data : Type) where
  phases : List PhaseStatus := []
  results : List (String × PhaseResult Data) := []
  events : List PhaseStatus := []

variable {Data Context : Type}

namespace PhaseResult

/-- The result of a phase that ended in an outcome or broke down. -/
def ofOutcome : Except Fault (Outcome Data) → PhaseResult Data
  | .ok (.produced data summary) => ⟨true, some data, summary⟩
  | .ok (.refused message leftover) => ⟨false, leftover, message⟩
  | .error fault => ⟨false, none, "error: " ++ fault.message⟩

end PhaseResult

namespace Run

/-- A run with the events and the result of one more phase before it. -/
def after (status : PhaseStatus) (result : PhaseResult Data) (rest : Run Data) : Run Data where
  phases := status :: rest.phases
  results := (status.id, result) :: rest.results
  events := { status with status := .processing, details := "" } :: status :: rest.events

def result? (run : Run Data) (id : String) : Option (PhaseResult Data) :=
  run.results.lookup id

/-- The first phase that did not succeed. -/
def failure? (run : Run Data) : Option (PhaseResult Data) :=
  (run.results.find? fun entry => !entry.2.success).map Prod.snd

end Run

namespace Registry

/-- The initial status of the phase at a place of a plan. -/
def initialStatus (registry : Registry Data Context) (id : String) (index : Nat) :
    Except Fault PhaseStatus := do
  return { position := some (index + 1), id, name := (← registry.get id).title }

/-- The initial statuses of planned phases, numbered from one. -/
def schedule (registry : Registry Data Context) (requested : List String) :
    Except Fault (List PhaseStatus) := do
  let ids ← registry.plan requested
  ids.zipIdx.mapM fun (id, index) => registry.initialStatus id index

/-- The results that a phase depends on. -/
def inputs (data : List (String × Data)) (dependsOn : List String) :
    Except Fault (List (String × Data)) :=
  dependsOn.mapM fun id =>
    match data.lookup id with
    | some input => .ok (id, input)
    | none => .error (.missingInput id)

/-- Runs scheduled phases, where `data` holds the results so far. -/
def runFrom (registry : Registry Data Context) (request : Request) (context : Context)
    (data : List (String × Data)) : List PhaseStatus → Except Fault (Run Data)
  | [] => .ok {}
  | scheduled :: rest => do
      let phase ← registry.get scheduled.id
      let inputs ← inputs data phase.dependsOn
      let outcome := phase.process request inputs context
      let result := PhaseResult.ofOutcome outcome
      match outcome with
      | .ok (.produced produced _) =>
          let status := { scheduled with status := .complete, details := result.message }
          let later ← runFrom registry request context ((scheduled.id, produced) :: data) rest
          return .after status result later
      | _ =>
          let status := { scheduled with status := .failed, details := result.message }
          return .after status result { phases := rest }

/-- Plans and runs the requested phases. -/
def run (registry : Registry Data Context) (request : Request) (context : Context)
    (requested : List String) : Except Fault (Run Data) := do
  registry.runFrom request context [] (← registry.schedule requested)

end Registry

end SentenceGraph
