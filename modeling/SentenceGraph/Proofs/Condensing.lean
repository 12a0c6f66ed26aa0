import Mathlib.Data.Int.ConditionallyCompleteOrder
import Mathlib.Data.List.MinMax
import SentenceGraph.Proofs.Merging
import SentenceGraph.Proofs.Ordering

/-!
# Reduction is a quotient

The nodes of one label and kind are a class. The quotient of a graph has one node for each class,
with the id of the first node of the class and the properties of the most confident one; its edges
are those between the classes, of which only the first of each key is looked at.

Merging reaches the quotient in steps: what the nodes so far have been merged into is the quotient
of these nodes.
-/

namespace SentenceGraph

variable {R : Type}

namespace KnowledgeGraph

/-- The id of the first node in the class of the node that an id names; other ids stand for
themselves. -/
def classId (nodes : List (Node R)) (id : Int) : Int :=
  match nodes.find? (·.id == id) with
  | some node => standIn nodes node
  | none => id

end KnowledgeGraph

/-- The edge between the classes of the ends of an edge. -/
def Edge.betweenClasses (nodes : List (Node R)) (edge : Edge R) : Edge R :=
  { edge with
    source := KnowledgeGraph.classId nodes edge.source
    target := KnowledgeGraph.classId nodes edge.target }

namespace Node

/-- The most confident node in the class of a node; of several, the earliest. -/
noncomputable def mostConfident? (nodes : List (Node Float)) (node : Node Float) :
    Option (Node Float) :=
  (nodes.filter (·.key == node.key)).argmax fun other => other.confidence.size

/-- The node of a class, given the first node of the class. -/
noncomputable def ofClass (nodes : List (Node Float)) (first : Node Float) : Node Float :=
  { first with properties := ((first.mostConfident? nodes).getD first).properties }

end Node

namespace KnowledgeGraph

/-- The quotient of a graph by label and kind. -/
noncomputable def quotient (graph : KnowledgeGraph Float) : KnowledgeGraph Float :=
  { graph with
    nodes := (firstsBy Node.key graph.nodes).map (Node.ofClass graph.nodes)
    edges :=
      (firstsBy Edge.key (graph.edges.map (Edge.betweenClasses graph.nodes))).filter (!·.isWeak) }

section Ids

variable {merge : Merge R} {nodes : List (Node R)} {node : Node R}

theorem classId_of_mem (unique : (nodes.map Node.id).Nodup) (node_mem : node ∈ nodes) :
    classId nodes node.id = standIn nodes node := by
  rcases exists_find?_key Node.id node_mem with ⟨named, found, same⟩
  have named_mem := List.mem_of_find?_eq_some found
  have equal := List.inj_on_of_nodup_map unique named_mem node_mem same
  rw [classId, found, equal]

theorem Merge.Summarizes.representative_eq_classId (summarizes : merge.Summarizes nodes)
    (unique : (nodes.map Node.id).Nodup) (id : Int) :
    merge.representative id = classId nodes id := by
  by_cases known : id ∈ nodes.map Node.id
  · rcases List.mem_map.mp known with ⟨node, node_mem, rfl⟩
    rw [summarizes.representative_eq unique node_mem, classId_of_mem unique node_mem]
  · have unnamed : nodes.find? (·.id == id) = none := by
      simpa using known
    have unlisted : merge.representatives.lookup id = none := by
      rw [summarizes.representatives, List.lookup_eq_none_iff]
      intro pair pair_mem
      rw [bne_iff_ne]
      rintro rfl
      apply known
      simp at pair_mem
      rcases pair_mem with ⟨node, node_mem, rfl⟩
      exact List.mem_map_of_mem node_mem
    rw [classId, unnamed, representative, unlisted]
    rfl

theorem Merge.Summarizes.redirect_eq (summarizes : merge.Summarizes nodes)
    (unique : (nodes.map Node.id).Nodup) : merge.redirect = Edge.betweenClasses nodes := by
  funext edge
  rw [redirect, Edge.betweenClasses, summarizes.representative_eq_classId unique,
    summarizes.representative_eq_classId unique]

end Ids

section Classes

variable {before : List (Node Float)} {first node best : Node Float}

theorem ofClass_of_mostConfident? (found : first.mostConfident? before = some best) :
    first.ofClass before = { first with properties := best.properties } := by
  rw [Node.ofClass, found]
  rfl

theorem exists_mostConfident? (first_mem : first ∈ before) :
    ∃ best ∈ before, first.mostConfident? before = some best := by
  cases found : first.mostConfident? before with
  | none =>
      have none_of_class := List.argmax_eq_none.mp found
      rw [List.filter_eq_nil_iff] at none_of_class
      exact absurd (beq_self_eq_true first.key) (none_of_class first first_mem)
  | some best => exact ⟨best, List.mem_of_mem_filter (List.argmax_mem found), rfl⟩

theorem mostConfident?_append_of_ne (different : node.key ≠ first.key) :
    first.mostConfident? (before ++ [node]) = first.mostConfident? before := by
  rw [Node.mostConfident?, List.filter_append]
  simp [different, Node.mostConfident?]

theorem mostConfident?_append_of_eq (same : node.key = first.key)
    (found : first.mostConfident? before = some best) :
    first.mostConfident? (before ++ [node]) =
      if best.confidence.size < node.confidence.size then some node else some best := by
  rw [Node.mostConfident?] at found
  rw [Node.mostConfident?, List.filter_append]
  simp [same, List.argmax_concat, found]

/-- The node of a class absorbs one more node of the class. -/
theorem absorb_ofClass (first_mem : first ∈ before) (same : node.key = first.key)
    (numeric : ∀ other ∈ before, other.confidence.IsNumeric)
    (nodeNumeric : node.confidence.IsNumeric) :
    (first.ofClass before).absorb node = .ok (first.ofClass (before ++ [node])) := by
  rcases exists_mostConfident? first_mem with ⟨best, best_mem, found⟩
  have grown := mostConfident?_append_of_eq same found
  have confident : (first.ofClass before).confidence = best.confidence := by
    rw [ofClass_of_mostConfident? found]
    rfl
  rw [Node.absorb, confident, (numeric best best_mem).below?_eq nodeNumeric]
  by_cases less : best.confidence.size < node.confidence.size
  · rw [if_pos less] at grown
    rw [ofClass_of_mostConfident? found, ofClass_of_mostConfident? grown]
    simp [less]
  · rw [if_neg less] at grown
    rw [ofClass_of_mostConfident? found, ofClass_of_mostConfident? grown]
    simp [less]

end Classes

/-- Where nodes of different keys are the images of others, changing the node of one key changes one
image. -/
theorem Merge.updateFirst_map {firsts : List (Node R)} {key : String × String}
    {change : Node R → Except Fault (Node R)} {image nextImage : Node R → Node R}
    (distinct : (firsts.map Node.key).Nodup) (keys : ∀ first, (image first).key = first.key)
    (changed : ∀ first ∈ firsts, first.key = key → change (image first) = .ok (nextImage first))
    (unchanged : ∀ first ∈ firsts, first.key ≠ key → nextImage first = image first) :
    updateFirst key change (firsts.map image) = .ok (firsts.map nextImage) := by
  induction firsts with
  | nil => rfl
  | cons first rest inductionHypothesis =>
      rw [List.map_cons, List.nodup_cons] at distinct
      rw [List.forall_mem_cons] at changed unchanged
      rw [List.map_cons, List.map_cons, updateFirst, keys]
      by_cases same : first.key = key
      · have others : rest.map nextImage = rest.map image := by
          apply List.map_congr_left
          intro other other_mem
          apply unchanged.2 other other_mem
          intro sameKey
          apply distinct.1
          rw [same, ← sameKey]
          exact List.mem_map_of_mem other_mem
        rw [if_pos (by simpa using same), changed.1 same, others]
        rfl
      · rw [if_neg (by simpa using same), inductionHypothesis distinct.2 changed.2 unchanged.2,
          unchanged.1 same]
        rfl

/-- What the nodes so far have been merged into: the nodes of their classes, if their confidences
are numbers. -/
structure Merge.Condenses (merge : Merge Float) (nodes : List (Node Float)) : Prop
    extends merge.Summarizes nodes where
  classes : (∀ node ∈ nodes, node.confidence.IsNumeric) →
    merge.nodes = (firstsBy Node.key nodes).map (Node.ofClass nodes)

section Steps

variable {merge next : Merge Float} {nodes before : List (Node Float)} {first node : Node Float}

theorem ofClass_append_of_ne (different : node.key ≠ first.key) :
    first.ofClass (before ++ [node]) = first.ofClass before := by
  rw [Node.ofClass, Node.ofClass, mostConfident?_append_of_ne different]

theorem ofClass_append_self (unseen : node.key ∉ before.map Node.key) :
    node.ofClass (before ++ [node]) = node := by
  have alone : before.filter (·.key == node.key) = [] := by
    rw [List.filter_eq_nil_iff]
    intro other other_mem same
    apply unseen
    rw [← beq_iff_eq.mp same]
    exact List.mem_map_of_mem other_mem
  apply ofClass_of_mostConfident?
  rw [Node.mostConfident?, List.filter_append, alone]
  simp [List.argmax_singleton]

theorem Merge.condenses_nil : ({} : Merge Float).Condenses [] where
  toSummarizes := summarizes_nil
  classes := fun _ => rfl

/-- One more node keeps the invariant. -/
theorem Merge.Condenses.insert (condenses : merge.Condenses before)
    (inserted : merge.insert node = .ok next) : next.Condenses (before ++ [node]) := by
  refine ⟨condenses.toSummarizes.insert inserted, ?_⟩
  intro numeric
  have earlierNumeric : ∀ other ∈ before, other.confidence.IsNumeric := by
    intro other other_mem
    exact numeric other (List.mem_append_left [node] other_mem)
  have nodeNumeric : node.confidence.IsNumeric := numeric node (by simp)
  have merged := condenses.classes earlierNumeric
  rcases condenses.insert_cases inserted with ⟨unseen, rfl⟩ | ⟨seen, changed, updated, rfl⟩
  · -- The node is the first of its class, and all others are of other classes.
    have others : (firstsBy Node.key before).map (Node.ofClass (before ++ [node])) =
        (firstsBy Node.key before).map (Node.ofClass before) := by
      apply List.map_congr_left
      intro other other_mem
      apply ofClass_append_of_ne
      intro same
      apply unseen
      rw [same]
      exact List.mem_map_of_mem (mem_of_mem_firstsBy other_mem)
    rw [firstsBy_append_singleton, if_neg unseen, List.map_append, List.map_singleton, others,
      ofClass_append_self unseen, merged]
  · -- The node of its class absorbs it.
    have absorbed : updateFirst node.key (·.absorb node) merge.nodes =
        .ok ((firstsBy Node.key before).map (Node.ofClass (before ++ [node]))) := by
      rw [merged]
      apply updateFirst_map nodup_map_firstsBy
      · intro first
        rfl
      · intro first first_mem same
        exact absorb_ofClass (mem_of_mem_firstsBy first_mem) same.symm earlierNumeric nodeNumeric
      · intro first first_mem different
        exact ofClass_append_of_ne (Ne.symm different)
    rw [updated] at absorbed
    rw [firstsBy_append_singleton, if_pos seen]
    exact Except.ok.inj absorbed

theorem Merge.condenses_of_ofNodes (merged : Merge.ofNodes nodes = .ok merge) :
    merge.Condenses nodes :=
  of_foldlM Condenses.insert condenses_nil merged

end Steps

theorem isMeasured_of_isNumeric [Quantity R] {node : Node R} (numeric : node.confidence.IsNumeric) :
    node.IsMeasured := by
  rcases numeric with ⟨number, isNumber, _⟩
  exact ⟨number, isNumber⟩

/-- Where ids are unique and confidences are numbers, reducing a graph computes its quotient; and an
end of an edge that is the id of a node becomes the id of a node of the same label and kind. -/
theorem reduce_eq_quotient (graph : KnowledgeGraph Float)
    (unique : (graph.nodes.map Node.id).Nodup)
    (numeric : ∀ node ∈ graph.nodes, node.confidence.IsNumeric) :
    ∃ reduced, graph.reduce = .ok reduced ∧ reduced.toKnowledgeGraph = graph.quotient ∧
      ∀ kept ∈ reduced.edges, ∃ edge ∈ graph.edges,
        kept = edge.betweenClasses graph.nodes ∧
        ∀ node ∈ graph.nodes,
          (node.id = edge.source → Names reduced.nodes kept.source node.key) ∧
            (node.id = edge.target → Names reduced.nodes kept.target node.key) := by
  have measured : ∀ node ∈ graph.nodes, node.IsMeasured := by
    intro node node_mem
    exact isMeasured_of_isNumeric (numeric node node_mem)
  rcases Merge.exists_ofNodes measured with ⟨merge, merged⟩
  have condenses := Merge.condenses_of_ofNodes merged
  have redirects := condenses.redirect_eq unique
  refine ⟨_, reduce_of_ofNodes merged, ?_, ?_⟩
  · simp only [quotient, redirects, condenses.classes numeric]
  · intro kept kept_mem
    have kept_mem_redirected := mem_of_mem_firstsBy (List.mem_of_mem_filter kept_mem)
    rcases List.mem_map.mp kept_mem_redirected with ⟨edge, edge_mem, rfl⟩
    refine ⟨edge, edge_mem, by rw [redirects], ?_⟩
    intro node node_mem
    have named := (condenses.names_representative_iff unique node_mem).mpr rfl
    constructor
    · rintro same
      rw [same] at named
      exact named
    · rintro same
      rw [same] at named
      exact named

theorem reduce_eq_quotient_dogs :
    let dog (id : Int) (confidence : Value Float) : Node Float :=
      { id, kind := "entity", label := "dog", properties := [("confidence", confidence)] }
    let graph : KnowledgeGraph Float := {
      intent := .unknown
      nodes := [dog 0 (.real 0.5), dog 1 (.int 1), { id := 2, kind := "action", label := "ran" }]
      edges := [⟨0, 2, "nsubj", 0.9⟩, ⟨1, 2, "nsubj", 0.8⟩, ⟨7, 2, "aux", 0.3⟩] }
    (graph.nodes.map Node.id).Nodup ∧ (∀ node ∈ graph.nodes, node.confidence.IsNumeric) ∧
      ∃ reduced, graph.reduce = .ok reduced ∧ reduced.toKnowledgeGraph = graph.quotient := by
  intro dog graph
  have unique : (graph.nodes.map Node.id).Nodup := by decide
  have numeric : ∀ node ∈ graph.nodes, node.confidence.IsNumeric := by
    simp only [graph, List.forall_mem_cons]
    refine ⟨⟨_, rfl, ?_⟩, ⟨_, rfl, trivial⟩, ⟨_, rfl, ?_⟩, by simp⟩
    · unfold Number.IsNumeric
      decide +kernel
    · unfold Number.IsNumeric
      decide +kernel
  rcases reduce_eq_quotient graph unique numeric with ⟨reduced, reduces, same, _⟩
  exact ⟨unique, numeric, reduced, reduces, same⟩

end KnowledgeGraph

end SentenceGraph
