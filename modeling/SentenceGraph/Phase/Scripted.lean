import SentenceGraph.Phase.Standard

/-!
# Scripted phases

A scripted phase does nothing but end in a given way. One that succeeds produces a text that shows
its id and the texts of the phases that it depends on.
-/

namespace SentenceGraph

/-- How a scripted phase ends. -/
inductive Script where
  | succeed
  | refuse
  | breakDown
deriving DecidableEq, Repr

/-- A phase that ends as the script says. -/
structure ScriptedPhase where
  id : String
  name : String := ""
  dependsOn : List String := []
  extension : String := ".txt"
  script : Script := .succeed
  message : String := ""

namespace ScriptedPhase

variable {R : Type} [Quantity R]

/-- What a result looks like among the inputs of a scripted phase. -/
def inputText : Artifact R → String
  | .text content => content
  | _ => "*"

/-- The phase that follows the script. -/
def phase (scripted : ScriptedPhase) : Phase (Artifact R) (Surroundings R) where
  id := scripted.id
  name := scripted.name
  dependsOn := scripted.dependsOn
  extension := scripted.extension
  process _ inputs _ :=
    match scripted.script with
    | .succeed =>
        let shown := inputs.map fun input => inputText input.2
        .ok (.produced (.text (scripted.id ++ "(" ++ ",".intercalate shown ++ ")")) scripted.message)
    | .refuse => .ok (.refused scripted.message)
    | .breakDown => .error (.crashed scripted.message)

end ScriptedPhase

end SentenceGraph
