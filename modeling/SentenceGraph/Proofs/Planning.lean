import Mathlib.Data.List.Chain
import Mathlib.Logic.Relation
import SentenceGraph.Phase.Plan
import SentenceGraph.Proofs.Fallible

/-!
# What plans are

A plan for requested phases exists if and only if everything that they need, directly or through
others, is registered and nothing needs itself. It then lists exactly these phases, each once and
each after those that it needs. Where there is no plan, the fault names a phase that is not
registered, or a circle of needs.

An order of phases grows at its end during the search. The invariant `Scheduled` follows that
growth, so the search only has to show that it adds one more phase whose needs stand in the order
already. A phase on the path is not added below itself, since the search would meet it again and
stop. A search that comes back is a derivation of `Search`, which has one rule for each way to deal
with a phase, and what such a search has done is proved by induction on the derivation.
-/

namespace SentenceGraph.Registry

open Relation Fallible

variable {Data Context : Type} {registry : Registry Data Context}
  {path order extended : List String}

/-- A phase depends on another one. -/
def Needs (registry : Registry Data Context) (id needed : String) : Prop :=
  ∃ phase, registry.find? id = some phase ∧ needed ∈ phase.dependsOn

/-- A phase is requested, or needed for a requested one. -/
def Reaches (registry : Registry Data Context) (requested : List String) (id : String) : Prop :=
  ∃ start ∈ requested, ReflTransGen registry.Needs start id

/-- A way along the needs of phases that ends where it began. -/
def IsCircle (registry : Registry Data Context) (circle : List String) : Prop :=
  ∃ start inner, circle = start :: (inner ++ [start]) ∧ circle.IsChain registry.Needs

/-- An order of registered phases that lists each once and after those that it needs. -/
inductive Scheduled (registry : Registry Data Context) : List String → Prop where
  | nil : Scheduled registry []
  | snoc {order : List String} {id : String} (scheduled : Scheduled registry order)
      (fresh : id ∉ order) (registered : id ∈ registry.ids)
      (ready : ∀ needed, registry.Needs id needed → needed ∈ order) :
      Scheduled registry (order ++ [id])

theorem find?_eq_none_iff {id : String} : registry.find? id = none ↔ id ∉ registry.ids := by
  rw [find?, List.find?_eq_none]
  simp [ids]

theorem exists_find?_of_mem_ids {id : String} (registered : id ∈ registry.ids) :
    ∃ phase, registry.find? id = some phase := by
  rw [← Option.ne_none_iff_exists']
  intro missing
  exact find?_eq_none_iff.mp missing registered

theorem mem_ids_of_find? {id : String} {phase : Phase Data Context}
    (found : registry.find? id = some phase) : id ∈ registry.ids := by
  by_contra missing
  rw [find?_eq_none_iff.mpr missing] at found
  contradiction

theorem Reaches.needed {requested : List String} {id needed : String}
    (reached : registry.Reaches requested id) (needs : registry.Needs id needed) :
    registry.Reaches requested needed := by
  rcases reached with ⟨start, start_mem, steps⟩
  exact ⟨start, start_mem, steps.tail needs⟩

theorem Reaches.mono {requested more : List String} {id : String}
    (reached : registry.Reaches requested id) (included : requested ⊆ more) :
    registry.Reaches more id := by
  rcases reached with ⟨start, start_mem, steps⟩
  exact ⟨start, included start_mem, steps⟩

namespace IsCircle

variable {circle : List String}

/-- A phase at which a circle begins needs itself in the end. -/
theorem exists_needs_itself (isCircle : registry.IsCircle circle) :
    ∃ id ∈ circle, TransGen registry.Needs id id := by
  rcases isCircle with ⟨start, inner, rfl, chain⟩
  refine ⟨start, by simp, ?_⟩
  cases inner with
  | nil => exact TransGen.single (by simpa using chain)
  | cons next inner =>
      rw [List.cons_append, List.isChain_cons_cons] at chain
      rcases chain with ⟨needs, chain⟩
      have onward : ReflTransGen registry.Needs next start :=
        List.relationReflTransGen_of_exists_isChain_cons (inner ++ [start]) chain (by simp)
      exact TransGen.head' needs onward

/-- Meeting a phase of a path again closes the part of the path from there on to a circle. -/
theorem of_path {id : String} (onPath : id ∈ path)
    (chain : (path ++ [id]).IsChain registry.Needs) :
    registry.IsCircle (path.dropWhile (· != id) ++ [id]) := by
  rcases List.append_of_mem onPath with ⟨before, after, rfl⟩
  induction before with
  | nil =>
      refine ⟨id, after, by simp, ?_⟩
      simpa using chain
  | cons first before inductionHypothesis =>
      rw [List.cons_append, List.cons_append] at chain
      by_cases here : first = id
      · subst here
        exact ⟨first, before ++ first :: after, by simp, by simpa using chain⟩
      · simpa [here] using inductionHypothesis (by simp) chain.of_cons

end IsCircle

namespace Scheduled

theorem nodup (scheduled : registry.Scheduled order) : order.Nodup := by
  induction scheduled with
  | nil => exact List.nodup_nil
  | snoc scheduled fresh registered ready inductionHypothesis =>
      rw [List.nodup_append]
      refine ⟨inductionHypothesis, by simp, ?_⟩
      rintro other other_mem id id_mem rfl
      rw [List.mem_singleton] at id_mem
      exact fresh (id_mem ▸ other_mem)

theorem mem_ids (scheduled : registry.Scheduled order) {id : String} (id_mem : id ∈ order) :
    id ∈ registry.ids := by
  induction scheduled with
  | nil => simp at id_mem
  | snoc scheduled fresh registered ready inductionHypothesis =>
      rcases List.mem_append.mp id_mem with earlier | last
      · exact inductionHypothesis earlier
      · rw [List.mem_singleton] at last
        exact last ▸ registered

theorem needed_mem (scheduled : registry.Scheduled order) {id needed : String}
    (id_mem : id ∈ order) (needs : registry.Needs id needed) : needed ∈ order := by
  induction scheduled with
  | nil => simp at id_mem
  | snoc scheduled fresh registered ready inductionHypothesis =>
      rw [List.mem_append]
      rcases List.mem_append.mp id_mem with earlier | last
      · exact Or.inl (inductionHypothesis earlier)
      · rw [List.mem_singleton] at last
        exact Or.inl (ready needed (last ▸ needs))

theorem reached_mem (scheduled : registry.Scheduled order) {id other : String}
    (id_mem : id ∈ order) (steps : ReflTransGen registry.Needs id other) : other ∈ order := by
  induction steps with
  | refl => exact id_mem
  | tail _ needs inductionHypothesis => exact scheduled.needed_mem inductionHypothesis needs

theorem needed_before (scheduled : registry.Scheduled order) {before after : List String}
    {id needed : String} (split : order = before ++ id :: after)
    (needs : registry.Needs id needed) : needed ∈ before := by
  induction scheduled generalizing after with
  | nil => simp at split
  | @snoc order last scheduled fresh registered ready inductionHypothesis =>
      rcases List.eq_nil_or_concat after with rfl | ⟨after, final, rfl⟩
      · obtain ⟨rfl, sameLast⟩ := List.append_inj' split rfl
        rw [List.cons.injEq] at sameLast
        exact ready needed (sameLast.1 ▸ needs)
      · rw [List.concat_eq_append, ← List.cons_append, ← List.append_assoc] at split
        obtain ⟨sameOrder, _⟩ := List.append_inj' split rfl
        exact inductionHypothesis sameOrder

/-- A phase of the order does not need itself: it would have to stand before itself. -/
theorem not_needs_itself (scheduled : registry.Scheduled order) {id : String}
    (id_mem : id ∈ order) : ¬TransGen registry.Needs id id := by
  induction scheduled with
  | nil => simp at id_mem
  | @snoc order last scheduled fresh registered ready inductionHypothesis =>
      rcases List.mem_append.mp id_mem with earlier | here
      · exact inductionHypothesis earlier
      · rw [List.mem_singleton] at here
        subst here
        intro around
        rcases TransGen.head'_iff.mp around with ⟨needed, needs, onward⟩
        exact fresh (scheduled.reached_mem (ready needed needs) onward)

end Scheduled

theorem visit_eq_ok {id : String} (visited : registry.visit path order id = .ok extended) :
    (id ∈ order ∧ extended = order) ∨
      (id ∉ order ∧ id ∉ path ∧ ∃ phase below, registry.find? id = some phase ∧
        registry.visitAll (path ++ [id]) order phase.dependsOn = .ok below ∧
          extended = below ++ [id]) := by
  rw [visit] at visited
  split at visited
  · rename_i done
    exact Or.inl ⟨by simpa using done, (Except.ok.inj visited).symm⟩
  · rename_i fresh
    split at visited
    · contradiction
    · rename_i outside
      split at visited
      · contradiction
      · rename_i phase found
        rcases bind_eq_ok_iff.mp visited with ⟨below, belowVisited, same⟩
        exact Or.inr ⟨by simpa using fresh, by simpa using outside, phase, below, found,
          belowVisited, (Except.ok.inj same).symm⟩

theorem visit_eq_error {id : String} {fault : Fault}
    (stopped : registry.visit path order id = .error fault) :
    (id ∈ path ∧ fault = .dependencyCycle (path.dropWhile (· != id) ++ [id])) ∨
      (id ∉ registry.ids ∧ fault = .unknownPhase id registry.ids) ∨
        ∃ phase, registry.find? id = some phase ∧
          registry.visitAll (path ++ [id]) order phase.dependsOn = .error fault := by
  rw [visit] at stopped
  split at stopped
  · contradiction
  · split at stopped
    · rename_i onPath
      exact Or.inl ⟨by simpa using onPath, (Except.error.inj stopped).symm⟩
    · split at stopped
      · rename_i missing
        exact Or.inr (Or.inl ⟨find?_eq_none_iff.mp missing, (Except.error.inj stopped).symm⟩)
      · rename_i phase found
        rcases bind_eq_error_iff.mp stopped with below | ⟨_, _, impossible⟩
        · exact Or.inr (Or.inr ⟨phase, found, below⟩)
        · contradiction

theorem visit_of_found {id : String} {phase : Phase Data Context} {below : List String}
    (found : registry.find? id = some phase) (fresh : id ∉ order) (outside : id ∉ path)
    (inner : registry.visitAll (path ++ [id]) order phase.dependsOn = .ok below) :
    registry.visit path order id = .ok (below ++ [id]) := by
  rw [visit, if_neg (by simpa using fresh), dif_neg (by simpa using outside)]
  split
  · rename_i missing
    rw [found] at missing
    contradiction
  · rename_i same sameFound
    rw [found, Option.some.injEq] at sameFound
    rw [← sameFound, inner]
    rfl

/-- A search that comes back. It passes over the phases that its order lists already, and goes down
to what any other one needs before it lists that one. -/
inductive Search (registry : Registry Data Context) :
    List String → List String → List String → List String → Prop where
  | finish {path order : List String} : Search registry path order [] order
  | pass {path order rest extended : List String} {id : String} (known : id ∈ order)
      (others : Search registry path order rest extended) :
      Search registry path order (id :: rest) extended
  | descend {path order below rest extended : List String} {id : String}
      {phase : Phase Data Context} (found : registry.find? id = some phase) (fresh : id ∉ order)
      (outside : id ∉ path)
      (inner : Search registry (path ++ [id]) order phase.dependsOn below)
      (others : Search registry path (below ++ [id]) rest extended) :
      Search registry path order (id :: rest) extended

/-- The induction follows the recursion. A visit of one phase is the front of any search that goes
on from where the visit ended. -/
theorem search_of_visitAll {requested : List String}
    (visited : registry.visitAll path order requested = .ok extended) :
    registry.Search path order requested extended := by
  refine (visit.mutual_induct registry
    (fun path order id => ∀ between, registry.visit path order id = .ok between →
      ∀ rest extended, registry.Search path between rest extended →
        registry.Search path order (id :: rest) extended)
    (fun path order requested => ∀ extended, registry.visitAll path order requested = .ok extended →
      registry.Search path order requested extended)
    ?_ ?_ ?_ ?_ ?_ ?_).2 path order requested extended visited
  · intro path order id done between visited rest extended others
    rw [visit, if_pos done, Except.ok.injEq] at visited
    exact .pass (by simpa using done) (visited ▸ others)
  · intro path order id fresh onPath between visited
    rw [visit, if_neg fresh, dif_pos onPath] at visited
    contradiction
  · intro path order id fresh outside missing between visited rest extended others
    rcases visit_eq_ok visited with ⟨known, rfl⟩ | ⟨_, _, phase, _, found, _⟩
    · exact .pass known others
    · rw [missing] at found
      contradiction
  · intro path order id fresh outside phase found below between visited rest extended others
    rcases visit_eq_ok visited with
      ⟨known, rfl⟩ | ⟨fresh, outside, same, lower, sameFound, inner, rfl⟩
    · exact .pass known others
    · rw [found, Option.some.injEq] at sameFound
      subst sameFound
      exact .descend found fresh outside (below lower inner) others
  · intro path order extended visited
    rw [visitAll, Except.ok.injEq] at visited
    exact visited ▸ .finish
  · intro path order id rest first others extended visited
    rw [visitAll] at visited
    rcases bind_eq_ok_iff.mp visited with ⟨between, firstVisited, othersVisited⟩
    exact first between firstVisited rest extended (others between extended othersVisited)

theorem visitAll_eq_ok_iff {requested : List String} :
    registry.visitAll path order requested = .ok extended ↔
      registry.Search path order requested extended := by
  constructor
  · exact search_of_visitAll
  · intro search
    induction search with
    | finish => rw [visitAll]
    | @pass path order rest extended id known others othersVisited =>
        have visited : registry.visit path order id = .ok order := by
          rw [visit, if_pos (by simpa using known)]
        rw [visitAll, visited]
        exact othersVisited
    | descend found fresh outside inner others innerVisited othersVisited =>
        rw [visitAll, visit_of_found found fresh outside innerVisited]
        exact othersVisited

theorem plan_eq_ok_iff {requested : List String} :
    registry.plan requested = .ok order ↔ registry.Search [] [] requested order :=
  visitAll_eq_ok_iff

/-- What the search has done when it comes back from some phases on a path. -/
structure Extends (registry : Registry Data Context) (path order requested extended : List String) :
    Prop where
  scheduled : registry.Scheduled extended
  grows : order <+: extended
  covers : ∀ id ∈ requested, id ∈ extended
  reached : ∀ id ∈ extended, id ∈ order ∨ registry.Reaches requested id
  offPath : ∀ id ∈ extended, id ∈ order ∨ id ∉ path

namespace Extends

variable {requested : List String}

theorem nothing (scheduled : registry.Scheduled order) :
    registry.Extends path order [] order where
  scheduled
  grows := List.prefix_rfl
  covers := by simp
  reached _ id_mem := Or.inl id_mem
  offPath _ id_mem := Or.inl id_mem

theorem known {id : String} (scheduled : registry.Scheduled order) (id_mem : id ∈ order) :
    registry.Extends path order [id] order where
  scheduled
  grows := List.prefix_rfl
  covers := by simpa using id_mem
  reached _ other_mem := Or.inl other_mem
  offPath _ other_mem := Or.inl other_mem

/-- The phases below a phase are followed by the phase itself. -/
theorem finish {id : String} {phase : Phase Data Context} {below : List String}
    (found : registry.find? id = some phase) (fresh : id ∉ order) (outside : id ∉ path)
    (extends_below : registry.Extends (path ++ [id]) order phase.dependsOn below) :
    registry.Extends path order [id] (below ++ [id]) where
  scheduled := by
    refine extends_below.scheduled.snoc ?_ (mem_ids_of_find? found) ?_
    · intro id_mem
      rcases extends_below.offPath id id_mem with old | offPath
      · exact fresh old
      · exact offPath (by simp)
    · rintro needed ⟨same, sameFound, needed_mem⟩
      rw [found, Option.some.injEq] at sameFound
      exact extends_below.covers needed (sameFound ▸ needed_mem)
  grows := extends_below.grows.trans (List.prefix_append _ _)
  covers := by simp
  reached := by
    intro other other_mem
    rcases List.mem_append.mp other_mem with earlier | last
    · rcases extends_below.reached other earlier with old | ⟨start, start_mem, steps⟩
      · exact Or.inl old
      · exact Or.inr ⟨id, by simp, ReflTransGen.head ⟨phase, found, start_mem⟩ steps⟩
    · rw [List.mem_singleton] at last
      exact Or.inr ⟨id, by simp, last ▸ ReflTransGen.refl⟩
  offPath := by
    intro other other_mem
    rcases List.mem_append.mp other_mem with earlier | last
    · rcases extends_below.offPath other earlier with old | offPath
      · exact Or.inl old
      · exact Or.inr fun onPath => offPath (List.mem_append_left _ onPath)
    · rw [List.mem_singleton] at last
      exact Or.inr (last ▸ outside)

/-- Going on with more phases. -/
theorem cons {id : String} {rest between : List String}
    (first : registry.Extends path order [id] between)
    (others : registry.Extends path between rest extended) :
    registry.Extends path order (id :: rest) extended where
  scheduled := others.scheduled
  grows := first.grows.trans others.grows
  covers := by
    intro other other_mem
    rcases List.mem_cons.mp other_mem with rfl | later
    · exact others.grows.subset (first.covers other (by simp))
    · exact others.covers other later
  reached := by
    intro other other_mem
    rcases others.reached other other_mem with earlier | reached
    · rcases first.reached other earlier with old | reached
      · exact Or.inl old
      · exact Or.inr (reached.mono (by simp))
    · exact Or.inr (reached.mono (by simp))
  offPath := by
    intro other other_mem
    rcases others.offPath other other_mem with earlier | offPath
    · exact first.offPath other earlier
    · exact Or.inr offPath

end Extends

/-- A search extends a scheduled order by the phases that it was sent to. -/
theorem extends_of_search {requested : List String}
    (search : registry.Search path order requested extended)
    (scheduled : registry.Scheduled order) :
    registry.Extends path order requested extended := by
  induction search with
  | finish => exact .nothing scheduled
  | pass known _ rest => exact (Extends.known scheduled known).cons (rest scheduled)
  | descend found fresh outside _ _ below rest =>
      have first := Extends.finish found fresh outside (below scheduled)
      exact first.cons (rest first.scheduled)

/-- What stands in the way of a plan, among phases that are wanted. -/
inductive Obstructs (registry : Registry Data Context) (wanted : String → Prop) : Fault → Prop where
  | circle {circle : List String} (isCircle : registry.IsCircle circle)
      (allWanted : ∀ id ∈ circle, wanted id) : Obstructs registry wanted (.dependencyCycle circle)
  | unknown {id : String} (missing : id ∉ registry.ids) (isWanted : wanted id) :
      Obstructs registry wanted (.unknownPhase id registry.ids)

/-- The search stops only at an obstacle. The path is a chain of needs all along, so that meeting
one of its phases again closes a circle. -/
theorem obstructs_of_visitAll {wanted : String → Prop} {requested : List String} {fault : Fault}
    (closed : ∀ id needed, wanted id → registry.Needs id needed → wanted needed)
    (chain : ∀ id ∈ requested, (path ++ [id]).IsChain registry.Needs)
    (pathWanted : ∀ id ∈ path, wanted id) (requestedWanted : ∀ id ∈ requested, wanted id)
    (stopped : registry.visitAll path order requested = .error fault) :
    registry.Obstructs wanted fault := by
  refine (visit.mutual_induct registry
    (fun path order id => (path ++ [id]).IsChain registry.Needs → (∀ id ∈ path, wanted id) →
      wanted id → registry.visit path order id = .error fault → registry.Obstructs wanted fault)
    (fun path order requested => (∀ id ∈ requested, (path ++ [id]).IsChain registry.Needs) →
      (∀ id ∈ path, wanted id) → (∀ id ∈ requested, wanted id) →
        registry.visitAll path order requested = .error fault → registry.Obstructs wanted fault)
    ?_ ?_ ?_ ?_ ?_ ?_).2 path order requested chain pathWanted requestedWanted stopped
  · intro path order id done chain pathWanted idWanted stopped
    rw [visit, if_pos done] at stopped
    contradiction
  · intro path order id fresh onPath chain pathWanted idWanted stopped
    rw [visit, if_neg fresh, dif_pos onPath, Except.error.injEq] at stopped
    rw [← stopped]
    refine .circle (.of_path (by simpa using onPath) chain) ?_
    intro other other_mem
    rcases List.mem_append.mp other_mem with onCircle | last
    · exact pathWanted other ((List.dropWhile_sublist _).subset onCircle)
    · rw [List.mem_singleton] at last
      exact last ▸ idWanted
  · intro path order id fresh outside missing chain pathWanted idWanted stopped
    rcases visit_eq_error stopped with ⟨onPath, _⟩ | ⟨missing, rfl⟩ | ⟨phase, found, _⟩
    · exact absurd (by simpa using onPath) outside
    · exact .unknown missing idWanted
    · rw [missing] at found
      contradiction
  · intro path order id fresh outside phase found below chain pathWanted idWanted stopped
    rcases visit_eq_error stopped with ⟨onPath, _⟩ | ⟨missing, rfl⟩ | ⟨same, sameFound, inner⟩
    · exact absurd (by simpa using onPath) outside
    · exact .unknown missing idWanted
    · rw [found, Option.some.injEq] at sameFound
      subst sameFound
      refine below ?_ ?_ ?_ inner
      · intro needed needed_mem
        rw [List.append_assoc]
        exact List.isChain_split.mpr ⟨chain, by simpa using ⟨phase, found, needed_mem⟩⟩
      · intro other other_mem
        rcases List.mem_append.mp other_mem with onPath | last
        · exact pathWanted other onPath
        · rw [List.mem_singleton] at last
          exact last ▸ idWanted
      · intro needed needed_mem
        exact closed id needed idWanted ⟨phase, found, needed_mem⟩
  · intro path order chain pathWanted requestedWanted stopped
    rw [visitAll] at stopped
    contradiction
  · intro path order id rest first others chain pathWanted requestedWanted stopped
    rw [visitAll] at stopped
    rcases bind_eq_error_iff.mp stopped with here | ⟨between, _, later⟩
    · exact first (chain id (by simp)) pathWanted (requestedWanted id (by simp)) here
    · refine others between ?_ pathWanted ?_ later
      · intro other other_mem
        exact chain other (List.mem_cons_of_mem _ other_mem)
      · intro other other_mem
        exact requestedWanted other (List.mem_cons_of_mem _ other_mem)

theorem extends_of_plan {requested : List String} (planned : registry.plan requested = .ok order) :
    registry.Extends [] [] requested order :=
  extends_of_search (plan_eq_ok_iff.mp planned) .nil

theorem obstructs_of_plan {requested : List String} {fault : Fault}
    (stopped : registry.plan requested = .error fault) :
    registry.Obstructs (registry.Reaches requested) fault := by
  refine obstructs_of_visitAll ?_ ?_ ?_ ?_ stopped
  · intro id needed reached needs
    exact reached.needed needs
  · simp
  · simp
  · intro id id_mem
    exact ⟨id, id_mem, ReflTransGen.refl⟩

theorem mem_plan_iff {requested : List String} (planned : registry.plan requested = .ok order)
    {id : String} : id ∈ order ↔ registry.Reaches requested id := by
  have extended := extends_of_plan planned
  constructor
  · intro id_mem
    exact (extended.reached id id_mem).resolve_left (by simp)
  · rintro ⟨start, start_mem, steps⟩
    exact extended.scheduled.reached_mem (extended.covers start start_mem) steps

theorem exists_plan_iff {requested : List String} :
    (∃ order, registry.plan requested = .ok order) ↔
      ∀ id, registry.Reaches requested id →
        id ∈ registry.ids ∧ ¬TransGen registry.Needs id id := by
  constructor
  · rintro ⟨order, planned⟩ id reached
    have scheduled := (extends_of_plan planned).scheduled
    have id_mem := (mem_plan_iff planned).mpr reached
    exact ⟨scheduled.mem_ids id_mem, scheduled.not_needs_itself id_mem⟩
  · intro sound
    cases planned : registry.plan requested with
    | ok order => exact ⟨order, rfl⟩
    | error fault =>
        exfalso
        cases obstructs_of_plan planned with
        | circle isCircle allReached =>
            rcases isCircle.exists_needs_itself with ⟨id, id_mem, around⟩
            exact (sound id (allReached id id_mem)).2 around
        | unknown missing reached => exact missing (sound _ reached).1

/-- Planning succeeds if and only if everything reached from the requested phases is registered and
needs itself in no number of steps. A plan lists what is reached, once and after its needs;
otherwise the fault shows a circle or an unregistered phase among what is reached. -/
theorem plan_decides (registry : Registry Data Context) (requested : List String) :
    ((∃ order, registry.plan requested = .ok order) ↔
      ∀ id, registry.Reaches requested id →
        id ∈ registry.ids ∧ ¬TransGen registry.Needs id id) ∧
    match registry.plan requested with
    | .ok order =>
        order.Nodup ∧ (∀ id, id ∈ order ↔ registry.Reaches requested id) ∧
          ∀ before id after, order = before ++ id :: after →
            ∀ needed, registry.Needs id needed → needed ∈ before
    | .error (.dependencyCycle circle) =>
        registry.IsCircle circle ∧ ∀ id ∈ circle, registry.Reaches requested id
    | .error (.unknownPhase id known) =>
        id ∉ registry.ids ∧ known = registry.ids ∧ registry.Reaches requested id
    | .error _ => False := by
  refine ⟨exists_plan_iff, ?_⟩
  cases planned : registry.plan requested with
  | ok order =>
      have scheduled := (extends_of_plan planned).scheduled
      refine ⟨scheduled.nodup, fun id => mem_plan_iff planned, ?_⟩
      intro before id after split needed needs
      exact scheduled.needed_before split needs
  | error fault =>
      cases obstructs_of_plan planned with
      | circle isCircle allReached => exact ⟨isCircle, allReached⟩
      | unknown missing reached => exact ⟨missing, rfl, reached⟩

end SentenceGraph.Registry
