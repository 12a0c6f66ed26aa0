import SentenceGraph.KnowledgeGraph.Reduction
import SentenceGraph.Proofs.Fallible
import SentenceGraph.Proofs.Firsts

/-!
# What merging and dropping leave

Merging keeps the first node of each label and kind, under its id, whatever becomes of its
properties; the ids of the others then stand for it. Dropping repetitions keeps the first edge of
each key.

Nodes are merged one at a time. The invariant `Summarizes` says what the nodes merged so far have
become; it is kept by each further node and mentions neither properties nor the log. Invariants that
do extend it.
-/

namespace SentenceGraph

open Fallible

variable {R : Type}

namespace Node

/-- What merging never changes about a node. -/
def identity (node : Node R) : Int × String × String :=
  (node.id, node.key)

theorem find?_key_map_identity {nodes : List (Node R)} {key : String × String} :
    (nodes.find? (·.key == key)).map identity = (nodes.map identity).find? (·.2 == key) := by
  rw [List.find?_map]
  rfl

variable [Quantity R]

/-- The confidence of a node is a number. -/
def IsMeasured (node : Node R) : Prop :=
  ∃ number, Number.ofValue? node.confidence = some number

variable {node second merged : Node R}

theorem identity_absorb (absorbed : node.absorb second = .ok merged) :
    merged.identity = node.identity := by
  unfold absorb at absorbed
  split at absorbed
  · rw [← Except.ok.inj absorbed]
    rfl
  · rw [← Except.ok.inj absorbed]
  · contradiction

theorem exists_absorb (measured : node.IsMeasured) (secondMeasured : second.IsMeasured) :
    ∃ merged, node.absorb second = .ok merged ∧ merged.IsMeasured := by
  rcases measured with ⟨first, number⟩
  rcases secondMeasured with ⟨other, secondNumber⟩
  have comparable : node.confidence.below? second.confidence = some (first.below other) := by
    simp only [Value.below?, number, secondNumber]
  unfold absorb
  rw [comparable]
  cases first.below other with
  | true => exact ⟨_, rfl, other, secondNumber⟩
  | false => exact ⟨node, rfl, first, number⟩

theorem absorb_eq_error {fault : Fault} (failed : node.absorb second = .error fault) :
    fault = .wrongShape := by
  unfold absorb at failed
  split at failed
  · contradiction
  · contradiction
  · exact (Except.error.inj failed).symm

end Node

namespace KnowledgeGraph

/-- The id of the first node with the key of a given one. -/
def standIn (nodes : List (Node R)) (node : Node R) : Int :=
  ((nodes.find? (·.key == node.key)).map Node.id).getD node.id

section StandIn

variable {nodes before more : List (Node R)} {node first : Node R}

theorem standIn_of_find? (found : nodes.find? (·.key == node.key) = some first) :
    standIn nodes node = first.id := by
  rw [standIn, found]
  rfl

theorem standIn_append (node_mem : node ∈ before) :
    standIn (before ++ more) node = standIn before node := by
  rcases exists_find?_key Node.key node_mem with ⟨first, found, _⟩
  rw [standIn_of_find? found]
  apply standIn_of_find?
  rw [List.find?_append, found]
  rfl

theorem standIn_append_self : standIn (before ++ [node]) node = standIn before node := by
  rw [standIn, standIn, List.find?_append]
  cases before.find? (·.key == node.key) with
  | none => simp
  | some first => rfl

end StandIn

namespace Merge

variable {merge next final : Merge R} {nodes before : List (Node R)} {node : Node R} {fault : Fault}

/-- The merged nodes are the first of each key, and each id stands for the first node of the key. -/
structure Summarizes (merge : Merge R) (nodes : List (Node R)) : Prop where
  identities : merge.nodes.map Node.identity = (firstsBy Node.key nodes).map Node.identity
  representatives :
    merge.representatives = (nodes.map fun node => (node.id, standIn nodes node)).reverse

theorem summarizes_nil : ({} : Merge R).Summarizes [] where
  identities := rfl
  representatives := rfl

namespace Summarizes

theorem find?_identity (summarizes : merge.Summarizes nodes) (key : String × String) :
    (merge.nodes.find? (·.key == key)).map Node.identity =
      (nodes.find? (·.key == key)).map Node.identity := by
  rw [Node.find?_key_map_identity, summarizes.identities, ← Node.find?_key_map_identity]
  exact congrArg (Option.map Node.identity) find?_firstsBy

theorem standIn_eq (summarizes : merge.Summarizes nodes) (node : Node R) :
    standIn merge.nodes node = standIn nodes node := by
  have ids := congrArg (Option.map Prod.fst) (summarizes.find?_identity node.key)
  rw [Option.map_map, Option.map_map] at ids
  exact congrArg (Option.getD · node.id) ids

theorem find?_key_eq_none_iff (summarizes : merge.Summarizes nodes) {key : String × String} :
    merge.nodes.find? (·.key == key) = none ↔ key ∉ nodes.map Node.key := by
  have found := summarizes.find?_identity key
  rw [← Option.map_eq_none_iff (f := Node.identity), found, Option.map_eq_none_iff,
    List.find?_eq_none]
  simp

theorem representatives_append (summarizes : merge.Summarizes before) :
    (node.id, standIn before node) :: merge.representatives =
      ((before ++ [node]).map fun other =>
        (other.id, standIn (before ++ [node]) other)).reverse := by
  have earlier : before.map (fun other => (other.id, standIn (before ++ [node]) other)) =
      before.map fun other => (other.id, standIn before other) := by
    apply List.map_congr_left
    intro other other_mem
    rw [standIn_append other_mem]
  rw [List.map_append, List.reverse_append, earlier, ← summarizes.representatives,
    List.map_singleton, standIn_append_self]
  rfl

end Summarizes

section Insert

variable [Quantity R]

omit [Quantity R] in
theorem map_identity_updateFirst {key : String × String} {change : Node R → Except Fault (Node R)}
    {changed : List (Node R)}
    (keeps : ∀ node next, change node = .ok next → next.identity = node.identity)
    (updated : updateFirst key change nodes = .ok changed) :
    changed.map Node.identity = nodes.map Node.identity := by
  induction nodes generalizing changed with
  | nil =>
      rw [← Except.ok.inj updated]
  | cons first rest inductionHypothesis =>
      rw [updateFirst] at updated
      split at updated
      · rcases bind_eq_ok_iff.mp updated with ⟨next, changes, same⟩
        rw [← Except.ok.inj same, List.map_cons, List.map_cons, keeps first next changes]
      · rcases bind_eq_ok_iff.mp updated with ⟨others, changes, same⟩
        rw [← Except.ok.inj same, List.map_cons, List.map_cons, inductionHypothesis changes]

omit [Quantity R] in
theorem exists_updateFirst {key : String × String} {change : Node R → Except Fault (Node R)}
    {Good : Node R → Prop}
    (changes : ∀ node, Good node → ∃ next, change node = .ok next ∧ Good next)
    (good : ∀ node ∈ nodes, Good node) :
    ∃ changed, updateFirst key change nodes = .ok changed ∧ ∀ node ∈ changed, Good node := by
  induction nodes with
  | nil => exact ⟨[], rfl, by simp⟩
  | cons first rest inductionHypothesis =>
      rw [List.forall_mem_cons] at good
      rw [updateFirst]
      split
      · rcases changes first good.1 with ⟨next, changed, nextGood⟩
        refine ⟨next :: rest, by rw [changed]; rfl, ?_⟩
        exact List.forall_mem_cons.mpr ⟨nextGood, good.2⟩
      · rcases inductionHypothesis good.2 with ⟨others, changed, othersGood⟩
        refine ⟨first :: others, by rw [changed]; rfl, ?_⟩
        exact List.forall_mem_cons.mpr ⟨good.1, othersGood⟩

/-- What each further node keeps holds after all of them. -/
theorem of_foldlM {Invariant : Merge R → List (Node R) → Prop}
    (kept : ∀ {merge before node next}, Invariant merge before → merge.insert node = .ok next →
      Invariant next (before ++ [node]))
    (holds : Invariant merge before) (merged : nodes.foldlM Merge.insert merge = .ok final) :
    Invariant final (before ++ nodes) := by
  induction nodes generalizing merge before with
  | nil =>
      rw [← Except.ok.inj merged, List.append_nil]
      exact holds
  | cons node rest inductionHypothesis =>
      rw [List.foldlM_cons] at merged
      rcases bind_eq_ok_iff.mp merged with ⟨next, inserted, merged⟩
      rw [List.append_cons]
      exact inductionHypothesis (kept holds inserted) merged

/-- What merging one more node does: the first node of its key joins the others, and any other one
may change the properties of the first. -/
theorem Summarizes.insert_cases (summarizes : merge.Summarizes before)
    (inserted : merge.insert node = .ok next) :
    (node.key ∉ before.map Node.key ∧
      next = {
        nodes := merge.nodes ++ [node]
        representatives := (node.id, node.id) :: merge.representatives
        log := merge.log }) ∨
    (node.key ∈ before.map Node.key ∧
      ∃ changed, updateFirst node.key (·.absorb node) merge.nodes = .ok changed ∧
        next = {
          nodes := changed
          representatives := (node.id, standIn before node) :: merge.representatives
          log := merge.log ++ ["Merged duplicate node: " ++ node.label] }) := by
  unfold Merge.insert at inserted
  split at inserted
  case h_1 fresh =>
    exact Or.inl ⟨summarizes.find?_key_eq_none_iff.mp fresh, (Except.ok.inj inserted).symm⟩
  case h_2 first known =>
    rcases bind_eq_ok_iff.mp inserted with ⟨changed, updated, same⟩
    have other : standIn before node = first.id := by
      rw [← summarizes.standIn_eq, standIn_of_find? known]
    right
    constructor
    · by_contra unseen
      rw [summarizes.find?_key_eq_none_iff.mpr unseen] at known
      contradiction
    · rw [other]
      exact ⟨changed, updated, (Except.ok.inj same).symm⟩

/-- One more node keeps the invariant. -/
theorem Summarizes.insert (summarizes : merge.Summarizes before)
    (inserted : merge.insert node = .ok next) : next.Summarizes (before ++ [node]) := by
  rcases summarizes.insert_cases inserted with ⟨unseen, rfl⟩ | ⟨seen, changed, updated, rfl⟩
  · -- The first node of its key joins the others and stands for itself.
    have itself : standIn before node = node.id := by
      rw [← summarizes.standIn_eq, standIn, summarizes.find?_key_eq_none_iff.mpr unseen]
      rfl
    constructor
    · rw [firstsBy_append_singleton, if_neg unseen, List.map_append, List.map_append,
        summarizes.identities]
    · rw [← summarizes.representatives_append, itself]
  · -- Another node of its key came first; only the properties of that one may change.
    constructor
    · rw [firstsBy_append_singleton, if_pos seen, ← summarizes.identities]
      exact map_identity_updateFirst (fun _ _ absorbed => Node.identity_absorb absorbed) updated
    · rw [← summarizes.representatives_append]

theorem exists_insert (measured : ∀ node ∈ merge.nodes, node.IsMeasured)
    (nodeMeasured : node.IsMeasured) :
    ∃ next, merge.insert node = .ok next ∧ ∀ node ∈ next.nodes, node.IsMeasured := by
  unfold Merge.insert
  split
  · refine ⟨_, rfl, ?_⟩
    intro other other_mem
    rcases List.mem_append.mp other_mem with earlier | last
    · exact measured other earlier
    · rw [List.mem_singleton] at last
      exact last ▸ nodeMeasured
  · rcases exists_updateFirst (fun other good => Node.exists_absorb good nodeMeasured) measured
      with ⟨changed, updated, changedMeasured⟩
    rw [updated]
    exact ⟨_, rfl, changedMeasured⟩

theorem exists_foldlM (measured : ∀ node ∈ merge.nodes, node.IsMeasured)
    (nodesMeasured : ∀ node ∈ nodes, node.IsMeasured) :
    ∃ final, nodes.foldlM Merge.insert merge = .ok final := by
  induction nodes generalizing merge with
  | nil => exact ⟨merge, rfl⟩
  | cons node rest inductionHypothesis =>
      rw [List.forall_mem_cons] at nodesMeasured
      rcases exists_insert measured nodesMeasured.1 with ⟨next, inserted, nextMeasured⟩
      rw [List.foldlM_cons, inserted]
      exact inductionHypothesis nextMeasured nodesMeasured.2

theorem summarizes_of_ofNodes (merged : ofNodes nodes = .ok merge) : merge.Summarizes nodes :=
  of_foldlM Summarizes.insert summarizes_nil merged

/-- Nodes can be merged if their confidences are numbers. -/
theorem exists_ofNodes (measured : ∀ node ∈ nodes, node.IsMeasured) :
    ∃ merge, ofNodes nodes = .ok merge :=
  exists_foldlM (by simp) measured

omit [Quantity R] in
theorem exists_of_updateFirst_eq_error {key : String × String}
    {change : Node R → Except Fault (Node R)}
    (failed : updateFirst key change nodes = .error fault) :
    ∃ node, change node = .error fault := by
  induction nodes with
  | nil => contradiction
  | cons first rest inductionHypothesis =>
      rw [updateFirst] at failed
      split at failed
      · rcases bind_eq_error_iff.mp failed with changes | ⟨_, _, impossible⟩
        · exact ⟨first, changes⟩
        · contradiction
      · rcases bind_eq_error_iff.mp failed with changes | ⟨_, _, impossible⟩
        · exact inductionHypothesis changes
        · contradiction

theorem insert_eq_error (failed : merge.insert node = .error fault) : fault = .wrongShape := by
  unfold Merge.insert at failed
  split at failed
  · contradiction
  · rcases bind_eq_error_iff.mp failed with changes | ⟨_, _, impossible⟩
    · rcases exists_of_updateFirst_eq_error changes with ⟨other, absorbs⟩
      exact Node.absorb_eq_error absorbs
    · contradiction

theorem foldlM_eq_error (failed : nodes.foldlM Merge.insert merge = .error fault) :
    fault = .wrongShape := by
  induction nodes generalizing merge with
  | nil => contradiction
  | cons node rest inductionHypothesis =>
      rw [List.foldlM_cons] at failed
      rcases bind_eq_error_iff.mp failed with inserts | ⟨next, _, failed⟩
      · exact insert_eq_error inserts
      · exact inductionHypothesis failed

/-- Merging fails only where confidences are no numbers. -/
theorem ofNodes_cases (nodes : List (Node R)) :
    (∃ merge, ofNodes nodes = .ok merge) ∨
      (ofNodes nodes = .error .wrongShape ∧ ∃ node ∈ nodes, ¬node.IsMeasured) := by
  cases merged : ofNodes nodes with
  | ok merge => exact Or.inl ⟨merge, rfl⟩
  | error fault =>
      right
      rw [foldlM_eq_error merged]
      refine ⟨rfl, ?_⟩
      by_contra measured
      push Not at measured
      rcases exists_ofNodes measured with ⟨merge, succeeds⟩
      rw [merged] at succeeds
      contradiction

end Insert

end Merge

/-- An id is that of a node with a key. -/
def Names (nodes : List (Node R)) (id : Int) (key : String × String) : Prop :=
  (id, key) ∈ nodes.map Node.identity

section Names

variable {merge : Merge R} {nodes : List (Node R)} {node : Node R} {id : Int}
  {key other : String × String}

theorem names_of_mem (node_mem : node ∈ nodes) : Names nodes node.id node.key :=
  List.mem_map_of_mem node_mem

theorem Names.unique (named : Names nodes id key) (otherNamed : Names nodes id other)
    (unique : (nodes.map Node.id).Nodup) : key = other := by
  rcases List.mem_map.mp named with ⟨node, node_mem, same⟩
  rcases List.mem_map.mp otherNamed with ⟨second, second_mem, otherSame⟩
  cases same
  rcases Prod.mk.inj otherSame with ⟨sameId, rfl⟩
  rw [List.inj_on_of_nodup_map unique second_mem node_mem sameId]

namespace Merge.Summarizes

/-- After merging, the id of a key is that of its first node. -/
theorem names_iff (summarizes : merge.Summarizes nodes) :
    Names merge.nodes id key ↔
      ∃ first, nodes.find? (·.key == key) = some first ∧ first.id = id := by
  rw [Names, summarizes.identities, List.mem_map]
  constructor
  · rintro ⟨first, first_mem, same⟩
    cases same
    exact ⟨first, mem_firstsBy_iff.mp first_mem, rfl⟩
  · rintro ⟨first, found, rfl⟩
    have same : first.key = key := by simpa using List.find?_some found
    exact ⟨first, find?_mem_firstsBy found, by rw [Node.identity, same]⟩

theorem representative_eq (summarizes : merge.Summarizes nodes)
    (unique : (nodes.map Node.id).Nodup) (node_mem : node ∈ nodes) :
    merge.representative node.id = standIn nodes node := by
  have found : merge.representatives.lookup node.id = some (standIn nodes node) := by
    rw [summarizes.representatives]
    apply lookup_of_mem
    · rw [List.map_reverse, List.map_map, List.nodup_reverse]
      exact unique
    · rw [List.mem_reverse]
      exact List.mem_map_of_mem node_mem
  rw [Merge.representative, found]
  rfl

/-- What stands for a node has its label and its kind. -/
theorem names_representative_iff (summarizes : merge.Summarizes nodes)
    (unique : (nodes.map Node.id).Nodup) (node_mem : node ∈ nodes) :
    Names merge.nodes (merge.representative node.id) key ↔ key = node.key := by
  rcases exists_find?_key Node.key node_mem with ⟨first, found, same⟩
  rw [summarizes.representative_eq unique node_mem, standIn_of_find? found, summarizes.names_iff]
  constructor
  · rintro ⟨other, otherFound, sameId⟩
    have other_mem := List.mem_of_find?_eq_some otherFound
    have first_mem := List.mem_of_find?_eq_some found
    have otherSame : other.key = key := by simpa using List.find?_some otherFound
    rw [← otherSame, List.inj_on_of_nodup_map unique other_mem first_mem sameId, same]
  · rintro rfl
    exact ⟨first, found, rfl⟩

theorem nodup_map_id (summarizes : merge.Summarizes nodes) (unique : (nodes.map Node.id).Nodup) :
    (merge.nodes.map Node.id).Nodup := by
  have ids : merge.nodes.map Node.id = (firstsBy Node.key nodes).map Node.id := by
    have firsts := congrArg (List.map Prod.fst) summarizes.identities
    rw [List.map_map, List.map_map] at firsts
    exact firsts
  rw [ids]
  exact unique.sublist (firstsBy_sublist.map Node.id)

end Merge.Summarizes

end Names

end KnowledgeGraph

namespace Edge

variable {seen : List (Int × Int × String)} {edges : List (Edge R)} {edge : Edge R}

/-- Dropping repetitions keeps the first edge of each key that was not seen before. -/
theorem dropRepeated_fst :
    (dropRepeated seen edges).1 = (firstsBy Edge.key edges).filter (!seen.contains ·.key) := by
  induction edges generalizing seen with
  | nil => rfl
  | cons edge rest inductionHypothesis =>
      rw [dropRepeated, firstsBy, List.filter_cons, List.filter_filter]
      cases known : seen.contains edge.key with
      | true =>
          have absorbed : ∀ later : Edge R, (!seen.contains later.key && later.key != edge.key) =
              !seen.contains later.key := by
            intro later
            by_cases same : later.key = edge.key
            · rw [same, known]
              rfl
            · simp [same]
          simp only [absorbed]
          exact inductionHypothesis
      | false =>
          have joined : ∀ later : Edge R, (!seen.contains later.key && later.key != edge.key) =
              !(edge.key :: seen).contains later.key := by
            intro later
            rw [List.contains_cons, Bool.not_or, Bool.and_comm]
            rfl
          simp only [joined, Bool.not_false, if_true]
          rw [← inductionHypothesis]
          rfl

theorem dropRepeated_snd_append_singleton :
    (dropRepeated seen (edges ++ [edge])).2 =
      if edge.key ∈ seen ++ edges.map Edge.key then
        (dropRepeated seen edges).2 ++ ["Removed redundant edge: " ++ edge.relation]
      else (dropRepeated seen edges).2 := by
  induction edges generalizing seen with
  | nil =>
      by_cases known : edge.key ∈ seen
      · simp [dropRepeated, known]
      · simp [dropRepeated, known]
  | cons first rest inductionHypothesis =>
      rw [List.cons_append, dropRepeated, dropRepeated]
      by_cases known : first.key ∈ seen
      · -- The first edge adds no key to those that were seen.
        have sameKeys : edge.key ∈ seen ++ (first :: rest).map Edge.key ↔
            edge.key ∈ seen ++ rest.map Edge.key := by
          simp only [List.map_cons, List.mem_append, List.mem_cons]
          constructor
          · rintro (earlier | same | later)
            · exact Or.inl earlier
            · exact Or.inl (same ▸ known)
            · exact Or.inr later
          · rintro (earlier | later)
            · exact Or.inl earlier
            · exact Or.inr (Or.inr later)
        simp only [List.contains_iff_mem.mpr known, if_true, inductionHypothesis, sameKeys]
        split
        · rfl
        · rfl
      · have sameKeys : edge.key ∈ seen ++ (first :: rest).map Edge.key ↔
            edge.key ∈ (first.key :: seen) ++ rest.map Edge.key := by
          simp only [List.map_cons, List.cons_append, List.mem_append, List.mem_cons]
          exact or_left_comm
        have unseen : seen.contains first.key = false := by simpa using known
        simp only [unseen, inductionHypothesis, sameKeys]
        rfl

/-- Dropping repetitions logs each edge of a key that an earlier one has. -/
theorem dropRepeated_snd :
    (dropRepeated [] edges).2 =
      (repeatsBy Edge.key edges).map fun edge => "Removed redundant edge: " ++ edge.relation := by
  induction edges using List.reverseRecOn with
  | nil => rfl
  | append_singleton edges edge inductionHypothesis =>
      rw [dropRepeated_snd_append_singleton, repeatsBy_append_singleton, List.nil_append,
        inductionHypothesis]
      split
      · rw [List.map_append, List.map_singleton]
      · rfl

end Edge

namespace KnowledgeGraph

variable [Quantity R] {graph : KnowledgeGraph R} {merge : Merge R}

/-- Reducing a graph merges its nodes, keeps the first edge of each key between the merged nodes, and
leaves the weak ones of these out. -/
theorem reduce_of_ofNodes (merged : Merge.ofNodes graph.nodes = .ok merge) :
    let redirected := graph.edges.map merge.redirect
    let distinct := firstsBy Edge.key redirected
    let kept := distinct.filter (!·.isWeak)
    graph.reduce = .ok {
      intent := graph.intent
      nodes := merge.nodes
      edges := kept
      format := graph.format
      version := graph.version
      log := merge.log ++
        (repeatsBy Edge.key redirected).map
          (fun edge => "Removed redundant edge: " ++ edge.relation) ++
        (distinct.filter Edge.isWeak).map Edge.weakEntry
      stats := {
        nodesBefore := graph.nodes.length
        nodesAfter := merge.nodes.length
        edgesBefore := graph.edges.length
        edgesAfter := kept.length
        reductionPercentage := percentageSaved graph.nodes.length merge.nodes.length } } := by
  intro redirected distinct kept
  have firsts : (Edge.dropRepeated [] redirected).1 = distinct := by
    rw [Edge.dropRepeated_fst]
    simp [distinct]
  rw [reduce, merged, ← Edge.dropRepeated_snd, ← firsts]
  simp only [kept, ← firsts]
  rfl

theorem reduce_of_ofNodes_error {fault : Fault} (failed : Merge.ofNodes graph.nodes = .error fault) :
    graph.reduce = .error fault := by
  rw [reduce, failed]
  rfl

/-- Reducing a graph can fail in merging alone. -/
theorem exists_reduce (merged : Merge.ofNodes graph.nodes = .ok merge) :
    ∃ reduced, graph.reduce = .ok reduced ∧ reduced.nodes = merge.nodes ∧
      reduced.edges =
        (Edge.dropRepeated [] (graph.edges.map merge.redirect)).1.filter (!·.isWeak) := by
  rw [reduce, merged]
  exact ⟨_, rfl, rfl, rfl⟩

end KnowledgeGraph

end SentenceGraph
