import SentenceGraph.Proofs.Planning

/-!
# Plans of plans and plans of joined requests

The orders that are their own plans are exactly the scheduled ones. So planning a plan changes
nothing. What is requested after other phases is planned after them: the plan for both is the first
plan, followed by what the second plan has beyond it.

For this, two searches for the same phases are followed side by side, one of which begins with a
scheduled order and the other with nothing. Where the first one meets a phase of its order it passes
on, while the other one may have to go down; but all that is needed there is in that order too. So
the second order, without the phases of the first, is what the first search adds.
-/

namespace SentenceGraph.Registry

variable {Data Context : Type} {registry : Registry Data Context}
  {path order listed extended requested wanted sequence : List String}

namespace Search

theorem append {between : List String} (first : registry.Search path order requested between)
    (second : registry.Search path between wanted extended) :
    registry.Search path order (requested ++ wanted) extended := by
  induction first with
  | finish => exact second
  | pass known _ rest => exact .pass known (rest second)
  | descend found fresh outside inner _ _ rest =>
      exact .descend found fresh outside inner (rest second)

theorem of_known (known : ∀ id ∈ requested, id ∈ order) :
    registry.Search path order requested order := by
  induction requested with
  | nil => exact .finish
  | cons id rest inductionHypothesis =>
      rw [List.forall_mem_cons] at known
      exact .pass known.1 (inductionHypothesis known.2)

/-- A search for phases of a scheduled order adds phases of that order only, since the order holds
all that they need. -/
theorem filter_eq (search : registry.Search path order requested extended)
    (scheduled : registry.Scheduled listed) (known : ∀ id ∈ requested, id ∈ listed) :
    extended.filter (· ∉ listed) = order.filter (· ∉ listed) := by
  induction search with
  | finish => rfl
  | pass _ _ rest =>
      rw [List.forall_mem_cons] at known
      exact rest known.2
  | @descend path order below others extended id phase found fresh outside _ _ inner rest =>
      rw [List.forall_mem_cons] at known
      have innerKnown : ∀ needed ∈ phase.dependsOn, needed ∈ listed := by
        intro needed needed_mem
        exact scheduled.needed_mem known.1 ⟨phase, found, needed_mem⟩
      calc extended.filter (· ∉ listed)
        _ = (below ++ [id]).filter (· ∉ listed) := rest known.2
        _ = below.filter (· ∉ listed) := by simp [known.1]
        _ = order.filter (· ∉ listed) := inner innerKnown

/-- A search can set out from a scheduled order put in front of its own as well. It comes back with
the same phases behind that order, except for those that the order lists. -/
theorem after (search : registry.Search path order requested extended)
    (scheduled : registry.Scheduled listed) :
    registry.Search path (listed ++ order.filter (· ∉ listed)) requested
      (listed ++ extended.filter (· ∉ listed)) := by
  induction search with
  | finish => exact .finish
  | @pass path order others extended id known _ rest =>
      refine .pass ?_ rest
      by_cases id_mem : id ∈ listed
      · simp [id_mem]
      · simp [id_mem, known]
  | @descend path order below others extended id phase found fresh outside inner _ front rest =>
      by_cases id_mem : id ∈ listed
      · -- Only the search that began with nothing goes down here.
        have descent : registry.Search path order [id] (below ++ [id]) :=
          .descend found fresh outside inner .finish
        rw [descent.filter_eq scheduled (by simpa using id_mem)] at rest
        exact .pass (by simp [id_mem]) rest
      · refine .descend found ?_ outside front ?_
        · simp [id_mem, fresh]
        · simpa [id_mem] using rest

end Search

theorem Scheduled.search (scheduled : registry.Scheduled order) :
    registry.Search [] [] order order := by
  induction scheduled with
  | nil => exact .finish
  | @snoc order id scheduled fresh registered ready inductionHypothesis =>
      rcases exists_find?_of_mem_ids registered with ⟨phase, found⟩
      have inner : registry.Search [id] order phase.dependsOn order := by
        apply Search.of_known
        intro needed needed_mem
        exact ready needed ⟨phase, found, needed_mem⟩
      exact inductionHypothesis.append (.descend found fresh (by simp) inner .finish)

/-- The orders that are their own plans are the scheduled ones. -/
theorem plan_eq_self_iff : registry.plan order = .ok order ↔ registry.Scheduled order := by
  rw [plan_eq_ok_iff]
  constructor
  · intro search
    exact (extends_of_search search .nil).scheduled
  · intro scheduled
    exact scheduled.search

theorem plan_append (planned : registry.plan requested = .ok order)
    (plannedWanted : registry.plan wanted = .ok sequence) :
    registry.plan (requested ++ wanted) = .ok (order ++ sequence.filter (· ∉ order)) := by
  rw [plan_eq_ok_iff] at planned plannedWanted ⊢
  have onward := plannedWanted.after (extends_of_search planned .nil).scheduled
  rw [List.filter_nil, List.append_nil] at onward
  exact planned.append onward

theorem perm_plan_iff (planned : registry.plan requested = .ok order)
    (plannedWanted : registry.plan wanted = .ok sequence) :
    order.Perm sequence ↔ ∀ id, registry.Reaches requested id ↔ registry.Reaches wanted id := by
  have scheduled := (extends_of_plan planned).scheduled
  have scheduledWanted := (extends_of_plan plannedWanted).scheduled
  rw [List.perm_ext_iff_of_nodup scheduled.nodup scheduledWanted.nodup]
  simp only [mem_plan_iff planned, mem_plan_iff plannedWanted]

/-- A plan is its own plan. Planning joined requests keeps the first plan and appends what the
second one has beyond it, and it makes no difference whether the first requests or their plan are
joined. Two plans are permutations of each other if and only if the same phases are reached from the
requests, so in particular if the same phases are requested. -/
theorem plans_join (registry : Registry Data Context)
    {requested wanted order sequence : List String} (planned : registry.plan requested = .ok order)
    (plannedWanted : registry.plan wanted = .ok sequence) :
    registry.plan order = .ok order ∧
      registry.plan (requested ++ wanted) = .ok (order ++ sequence.filter (· ∉ order)) ∧
      registry.plan (order ++ wanted) = registry.plan (requested ++ wanted) ∧
      (order.Perm sequence ↔
        ∀ id, registry.Reaches requested id ↔ registry.Reaches wanted id) ∧
      ((∀ id, id ∈ requested ↔ id ∈ wanted) → order.Perm sequence) := by
  have again : registry.plan order = .ok order :=
    plan_eq_self_iff.mpr (extends_of_plan planned).scheduled
  refine ⟨again, plan_append planned plannedWanted, ?_, perm_plan_iff planned plannedWanted, ?_⟩
  · rw [plan_append again plannedWanted, plan_append planned plannedWanted]
  · intro same
    rw [perm_plan_iff planned plannedWanted]
    intro id
    constructor
    · intro reached
      exact reached.mono fun start => (same start).mp
    · intro reached
      exact reached.mono fun start => (same start).mpr

/-- Cloth is woven from weft and warp, and both of them are spun. -/
def weaving : Registry Unit Unit :=
  [("cloth", ["weft", "warp"]), ("warp", ["yarn"]), ("weft", ["yarn"]), ("yarn", [])].map
    fun (id, dependsOn) => { id, dependsOn, process := fun _ _ _ => .ok (.produced () "") }

/-- Cloth alone is planned with the weft first. Requested after the warp it is not. -/
theorem plans_join_weaving :
    weaving.plan ["warp"] = .ok ["yarn", "warp"] ∧
      weaving.plan ["cloth"] = .ok ["yarn", "weft", "warp", "cloth"] ∧
      weaving.plan ["yarn", "warp"] = .ok ["yarn", "warp"] ∧
      weaving.plan ["warp", "cloth"] = .ok ["yarn", "warp", "weft", "cloth"] ∧
      weaving.plan ["yarn", "warp", "cloth"] = weaving.plan ["warp", "cloth"] ∧
      weaving.plan ["weft", "warp"] = .ok ["yarn", "weft", "warp"] ∧
      weaving.plan ["warp", "weft", "warp"] = .ok ["yarn", "warp", "weft"] ∧
      ["yarn", "weft", "warp"].Perm ["yarn", "warp", "weft"] := by
  have planned : weaving.plan ["warp"] = .ok ["yarn", "warp"] := by cbv
  have plannedCloth : weaving.plan ["cloth"] = .ok ["yarn", "weft", "warp", "cloth"] := by cbv
  have weftFirst : weaving.plan ["weft", "warp"] = .ok ["yarn", "weft", "warp"] := by cbv
  have warpFirst : weaving.plan ["warp", "weft", "warp"] = .ok ["yarn", "warp", "weft"] := by cbv
  rcases plans_join weaving planned plannedCloth with ⟨again, joined, alike, -⟩
  rcases plans_join weaving weftFirst warpFirst with ⟨-, -, -, -, permuted⟩
  refine ⟨planned, plannedCloth, again, joined, alike, weftFirst, warpFirst, permuted ?_⟩
  intro id
  simp [or_comm]

end SentenceGraph.Registry
