import SentenceGraph.Fault

/-!
# Phases

A compilation goes through phases. A phase has an id, names the phases whose results it needs, and
turns their results into its own, in a context that all phases share. Phases are kept in a registry,
in the order in which their ids were first registered.
-/

namespace SentenceGraph

/-- What is to be compiled, and how the document is to be rendered. -/
structure Request where
  text : String
  format : Option String := some "json"
  language : String := "en"
deriving Repr

/-- How a phase ends if it does not break down. -/
inductive Outcome (Data : Type) where
  /-- It produced a result, summed up in one line. -/
  | produced (data : Data) (summary : String)
  /-- It gave up, for a stated reason. What it had come to is kept, but no phase builds on it. -/
  | refused (message : String) (leftover : Option Data := none)

/-- A phase: from a request, the results of the phases that it depends on and a context to an
outcome. -/
structure Phase (Data Context : Type) where
  id : String
  name : String := ""
  dependsOn : List String := []
  extension : String := ".txt"
  process : Request → List (String × Data) → Context → Except Fault (Outcome Data)

/-- The registered phases. -/
abbrev Registry (Data Context : Type) := List (Phase Data Context)

variable {Data Context : Type}

/-- The name that is shown for a phase. -/
def Phase.title (phase : Phase Data Context) : String :=
  if phase.name == "" then phase.id else phase.name

namespace Registry

/-- The ids of the registered phases. -/
def ids (registry : Registry Data Context) : List String :=
  registry.map Phase.id

/-- Registers a phase; a phase of the same id gives its place to the new one. -/
def register (registry : Registry Data Context) (phase : Phase Data Context) :
    Registry Data Context :=
  if registry.ids.contains phase.id then
    registry.map fun known => if known.id == phase.id then phase else known
  else registry ++ [phase]

def find? (registry : Registry Data Context) (id : String) : Option (Phase Data Context) :=
  List.find? (fun phase => phase.id == id) registry

/-- The phase of an id, which has to be registered. -/
def get (registry : Registry Data Context) (id : String) : Except Fault (Phase Data Context) :=
  match registry.find? id with
  | some phase => .ok phase
  | none => .error (.unknownPhase id registry.ids)

end Registry

end SentenceGraph
