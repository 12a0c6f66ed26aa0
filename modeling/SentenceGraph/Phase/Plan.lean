import SentenceGraph.Phase

/-!
# Planning

A plan lists the phases that are needed for the requested ones, each after those that it depends on.
It is found depth first: the phases on the way down form a path, and meeting one of them again is a
cycle. The search ends because each step down takes one more registered phase onto the path.
-/

namespace SentenceGraph.Registry

variable {Data Context : Type}

/-- The number of registered phases that are not on a path. -/
def offPath (registry : Registry Data Context) (path : List String) : Nat :=
  registry.countP fun phase => !path.contains phase.id

theorem offPath_cons (first : Phase Data Context) (rest : Registry Data Context)
    (path : List String) :
    offPath (first :: rest) path =
      offPath rest path + if path.contains first.id then 0 else 1 := by
  cases known : path.contains first.id <;> simp only [offPath, List.countP_cons, known] <;> rfl

theorem contains_extended (path : List String) (id other : String) :
    (path ++ [id]).contains other = (path.contains other || other == id) := by
  rw [List.contains_append, List.contains_cons, List.contains_nil, Bool.or_false]

theorem offPath_append_le (registry : Registry Data Context) (path : List String) (id : String) :
    registry.offPath (path ++ [id]) ≤ registry.offPath path := by
  apply List.countP_mono_left
  intro phase _ outside
  rw [contains_extended] at outside
  cases known : path.contains phase.id with
  | true => rw [known, Bool.true_or] at outside; exact outside
  | false => rfl

theorem offPath_append_lt {registry : Registry Data Context} {path : List String} {id : String}
    {phase : Phase Data Context} (found : registry.find? id = some phase)
    (outside : path.contains id = false) :
    registry.offPath (path ++ [id]) < registry.offPath path := by
  induction registry with
  | nil => exact absurd found (by simp [find?])
  | cons first rest inductionHypothesis =>
    have shrinks := offPath_append_le rest path id
    rw [offPath_cons, offPath_cons, contains_extended]
    by_cases here : first.id = id
    · rw [here, outside, beq_self_eq_true]
      exact Nat.lt_succ_of_le shrinks
    · have later : find? rest id = some phase := by simpa [find?, here] using found
      have smaller := inductionHypothesis later
      rw [beq_eq_false_iff_ne.mpr here, Bool.or_false]
      omega

set_option linter.unusedVariables false in
mutual

/-- Adds a phase and everything that it needs to an order of phases, unless it is there already. -/
def visit (registry : Registry Data Context) (path order : List String) (id : String) :
    Except Fault (List String) :=
  if order.contains id then .ok order
  else if onPath : path.contains id then
    .error (.dependencyCycle (path.dropWhile (· != id) ++ [id]))
  else
    match found : registry.find? id with
    | none => .error (.unknownPhase id registry.ids)
    | some phase => do
        let extended ← visitAll registry (path ++ [id]) order phase.dependsOn
        return extended ++ [id]
termination_by (registry.offPath path, 0)
decreasing_by exact Prod.Lex.left _ _ (offPath_append_lt found (by simpa using onPath))

/-- Adds phases and everything that they need to an order of phases, one after the other. -/
def visitAll (registry : Registry Data Context) (path order : List String) :
    List String → Except Fault (List String)
  | [] => .ok order
  | id :: rest => do
      let extended ← visit registry path order id
      visitAll registry path extended rest
termination_by ids => (registry.offPath path, ids.length + 1)

end

/-- The plan for the requested phases. -/
def plan (registry : Registry Data Context) (requested : List String) : Except Fault (List String) :=
  registry.visitAll [] [] requested

end SentenceGraph.Registry
