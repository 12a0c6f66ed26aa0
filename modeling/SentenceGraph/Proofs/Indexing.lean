import Mathlib.Data.List.Nodup
import Mathlib.Data.List.Range
import SentenceGraph.KnowledgeGraph.Reduction

/-!
# What the label index finds

The label index of some nodes finds what a search through the nodes from the front finds. The nodes
of a semantic graph are numbered in order, so that an id names one node.
-/

namespace SentenceGraph.KnowledgeGraph

variable {R : Type}

namespace LabelIndex

variable {nodes : List (Node R)} {label kind : String}

section Filing

variable {Key : Type} [BEq Key] [LawfulBEq Key]

/-- An id filed under a key that is free is found there, and does not hide what was filed before. -/
theorem lookup_file (entries : List (Key × Int)) (key wanted : Key) (id : Int) :
    (file entries key id).lookup wanted =
      (entries.lookup wanted).or (if key == wanted then some id else none) := by
  rw [file]
  by_cases same : key = wanted
  · subst same
    cases earlier : entries.lookup key with
    | none => simp [List.lookup_append, earlier]
    | some other => simp [earlier]
  · have different : (wanted == key) = false := beq_eq_false_iff_ne.mpr (Ne.symm same)
    cases entries.lookup key with
    | none => simp [List.lookup_append, List.lookup_cons, same, different]
    | some other => simp [same]

/-- What is found under a key after some nodes were filed is the id of the first one of that key. -/
theorem lookup_foldl_file (keyOf : Node R → Key) (entries : List (Key × Int))
    (nodes : List (Node R)) (wanted : Key) :
    (nodes.foldl (fun entries node => file entries (keyOf node) node.id) entries).lookup wanted =
      (entries.lookup wanted).or ((nodes.find? (keyOf · == wanted)).map Node.id) := by
  induction nodes generalizing entries with
  | nil => simp
  | cons node rest inductionHypothesis =>
      rw [List.foldl_cons, inductionHypothesis, lookup_file, List.find?_cons, Option.or_assoc]
      cases keyOf node == wanted with
      | true => simp
      | false => simp

end Filing

theorem any?_ofNodes :
    (ofNodes nodes).any? label = (nodes.find? (·.label == label)).map Node.id := by
  have filed : (ofNodes nodes).byLabel =
      nodes.foldl (fun entries node => file entries node.label node.id) [] :=
    (List.foldl_hom byLabel fun _ _ => rfl).symm
  rw [any?, filed, lookup_foldl_file Node.label]
  rfl

theorem find?_ofNodes :
    (ofNodes nodes).find? label kind = (nodes.find? (·.key == (label, kind))).map Node.id := by
  have filed : (ofNodes nodes).byLabelAndKind =
      nodes.foldl (fun entries node => file entries node.key node.id) [] :=
    (List.foldl_hom byLabelAndKind fun _ _ => rfl).symm
  rw [find?, filed, lookup_foldl_file Node.key]
  rfl

end LabelIndex

variable {graph : SemanticGraph R}

/-- The labels and kinds of the nodes of a semantic graph. -/
theorem map_key_nodesOf :
    (nodesOf graph).map Node.key =
      graph.entities.map (fun entity => (entity.name, Node.entityKind)) ++
        graph.actions.map (fun action => (action.verb, Node.actionKind)) := by
  have entities :
      (graph.entities.zipIdx.map fun item => Node.ofEntity item.1 item.2).map Node.key =
        (graph.entities.zipIdx.map Prod.fst).map fun entity => (entity.name, Node.entityKind) := by
    rw [List.map_map, List.map_map]
    rfl
  have actions :
      (graph.actions.zipIdx.map fun item =>
          Node.ofAction item.1 (graph.entities.length + item.2)).map Node.key =
        (graph.actions.zipIdx.map Prod.fst).map fun action => (action.verb, Node.actionKind) := by
    rw [List.map_map, List.map_map]
    rfl
  rw [nodesOf, List.map_append, entities, actions, List.zipIdx_map_fst, List.zipIdx_map_fst]

/-- The nodes of a semantic graph are numbered in order. -/
theorem map_id_nodesOf :
    (nodesOf graph).map Node.id =
      (List.range (graph.entities.length + graph.actions.length)).map Nat.cast := by
  have entities :
      (graph.entities.zipIdx.map fun item => Node.ofEntity item.1 item.2).map Node.id =
        (graph.entities.zipIdx.map Prod.snd).map (Nat.cast : Nat → Int) := by
    rw [List.map_map, List.map_map]
    rfl
  have actions :
      (graph.actions.zipIdx.map fun item =>
          Node.ofAction item.1 (graph.entities.length + item.2)).map Node.id =
        ((graph.actions.zipIdx.map Prod.snd).map (graph.entities.length + ·)).map
          (Nat.cast : Nat → Int) := by
    rw [List.map_map, List.map_map, List.map_map]
    rfl
  have joined := List.range'_append_1 (s := 0) (m := graph.entities.length)
    (n := graph.actions.length)
  rw [Nat.zero_add] at joined
  rw [nodesOf, List.map_append, entities, actions, List.zipIdx_map_snd, List.zipIdx_map_snd,
    List.map_add_range', Nat.add_zero, List.range_eq_range', ← List.map_append, joined]

theorem nodup_map_id_nodesOf : ((nodesOf graph).map Node.id).Nodup := by
  rw [map_id_nodesOf]
  exact List.nodup_range.map fun first second same => Int.natCast_inj.mp same

end SentenceGraph.KnowledgeGraph
