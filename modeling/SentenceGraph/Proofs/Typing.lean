import Mathlib.Data.List.Find
import SentenceGraph.Proofs.Parsing
import SentenceGraph.Proofs.Reducing

/-!
# Which kinds of nodes edges join

A dependency names its ends by label alone, so nothing in the making of its edge sees to it that a
subject is an entity and a predicate an action. It holds all the same: the tag of a word depends on
the word, so that a word that is a nominal in one place is a nominal everywhere. Entities come from
nominals and actions from verbals, hence no label is on nodes of both kinds, and a dependency finds
the node that a search by label and kind would find.

Merging gives each node up for one of the same label and kind, which keeps all of this.
-/

namespace SentenceGraph

variable {R : Type} {tokens : List (Token R)} {token : Token R}

/-- Tokens of one word have one tag. -/
def Token.Consistent (tokens : List (Token R)) : Prop :=
  ∀ first ∈ tokens, ∀ second ∈ tokens, first.word = second.word → first.tag = second.tag

theorem Token.Consistent.isTagged (consistent : Token.Consistent tokens) {second : Token R}
    {choice : PartOfSpeech → Bool} (token_mem : token ∈ tokens) (second_mem : second ∈ tokens)
    (same : token.word = second.word) (tagged : token.isTagged choice = true) :
    second.isTagged choice = true := by
  have sameTag := consistent token token_mem second second_mem same
  simpa [Token.isTagged, Token.partOfSpeech?, sameTag] using tagged

theorem Tagging.tag_of_mem_ofText [Quantity R] {text : String}
    {dictionary : String → Option (Entry R)} (token_mem : token ∈ ofText text dictionary) :
    token.tag = (explain token.word (dictionary (Text.lowercase token.word))).tag := by
  rcases List.mem_map.mp token_mem with ⟨⟨⟨word, entry⟩, index⟩, placed, rfl⟩
  have paired := List.fst_mem_of_mem_zipIdx placed
  rw [← List.map_prod_left_eq_zip] at paired
  rcases List.mem_map.mp paired with ⟨word, word_mem, same⟩
  cases same
  rfl

theorem Tagging.consistent_ofText [Quantity R] (text : String)
    (dictionary : String → Option (Entry R)) : Token.Consistent (ofText text dictionary) := by
  intro first first_mem second second_mem same
  rw [tag_of_mem_ofText first_mem, tag_of_mem_ofText second_mem, same]

namespace KnowledgeGraph

/-- An id is that of a node of a kind. -/
def HasKind (nodes : List (Node R)) (id : Int) (kind : String) : Prop :=
  ∃ node ∈ nodes, node.id = id ∧ node.kind = kind

/-- An edge joins nodes of the kinds that its relation is about. -/
structure Fits (nodes : List (Node R)) (edge : Edge R) : Prop where
  doing : edge.relation = "performs" ∨ edge.relation = "nsubj" →
    HasKind nodes edge.source Node.entityKind ∧ HasKind nodes edge.target Node.actionKind
  undergoing : edge.relation = "affects" ∨ edge.relation = "dobj" →
    HasKind nodes edge.source Node.actionKind ∧ HasKind nodes edge.target Node.entityKind
  unmodified : edge.relation ≠ "amod"

/-- Every node has an id of its own and is an entity or an action, no label is on both an entity and
an action, and every edge fits. -/
structure Typed (graph : KnowledgeGraph R) : Prop where
  unique : (graph.nodes.map Node.id).Nodup
  kinds : ∀ node ∈ graph.nodes, node.kind = Node.entityKind ∨ node.kind = Node.actionKind
  apart : ∀ entity ∈ graph.nodes, ∀ action ∈ graph.nodes,
    entity.kind = Node.entityKind → action.kind = Node.actionKind → entity.label ≠ action.label
  edges : ∀ edge ∈ graph.edges, Fits graph.nodes edge

section Lookup

variable {nodes : List (Node R)} {label kind : String} {id : Int}

theorem hasKind_of_find? (found : (LabelIndex.ofNodes nodes).find? label kind = some id) :
    HasKind nodes id kind := by
  rw [LabelIndex.find?_ofNodes, Option.map_eq_some_iff] at found
  rcases found with ⟨node, found, rfl⟩
  have same : node.key = (label, kind) := by simpa using List.find?_some found
  exact ⟨node, List.mem_of_find?_eq_some found, rfl, (Prod.mk.inj same).2⟩

/-- If all nodes of a label are of one kind, it does not matter whether the kind is looked at. -/
theorem any?_eq_find? (only : ∀ node ∈ nodes, node.label = label → node.kind = kind) :
    (LabelIndex.ofNodes nodes).any? label = (LabelIndex.ofNodes nodes).find? label kind := by
  rw [LabelIndex.any?_ofNodes, LabelIndex.find?_ofNodes]
  congr 1
  apply List.find?_congr
  intro node node_mem
  by_cases same : node.label = label
  · simp [Node.key, same, only node node_mem same]
  · simp [Node.key, same]

end Lookup

namespace Typed

variable {graph : KnowledgeGraph R} {label : String} {id : Int}

theorem kind_eq (typed : graph.Typed) {first second : Node R} (first_mem : first ∈ graph.nodes)
    (second_mem : second ∈ graph.nodes) (same : first.label = second.label) :
    first.kind = second.kind := by
  rcases typed.kinds first first_mem with firstKind | firstKind
  · rcases typed.kinds second second_mem with secondKind | secondKind
    · rw [firstKind, secondKind]
    · exact absurd same (typed.apart first first_mem second second_mem firstKind secondKind)
  · rcases typed.kinds second second_mem with secondKind | secondKind
    · exact absurd same.symm (typed.apart second second_mem first first_mem secondKind firstKind)
    · rw [firstKind, secondKind]

/-- A search by label finds what a search by label and kind finds, for whichever kind that is. -/
theorem any?_eq_some_iff (typed : graph.Typed) :
    (LabelIndex.ofNodes graph.nodes).any? label = some id ↔
      ∃ kind, (LabelIndex.ofNodes graph.nodes).find? label kind = some id := by
  have agree : ∀ node ∈ graph.nodes, node.label = label →
      (LabelIndex.ofNodes graph.nodes).any? label =
        (LabelIndex.ofNodes graph.nodes).find? label node.kind := by
    intro node node_mem labelled
    apply any?_eq_find?
    intro other other_mem otherLabelled
    exact typed.kind_eq other_mem node_mem (otherLabelled.trans labelled.symm)
  constructor
  · intro found
    rcases labels_of_any? found with ⟨node, node_mem, _, labelled⟩
    refine ⟨node.kind, ?_⟩
    rw [← agree node node_mem labelled]
    exact found
  · rintro ⟨kind, found⟩
    have filed : (label, kind) ∈ graph.nodes.map Node.key := exists_find?_iff.mp ⟨id, found⟩
    rcases List.mem_map.mp filed with ⟨node, node_mem, same⟩
    cases same
    rw [agree node node_mem rfl]
    exact found

section Reduced

variable {merge : Merge R} {edge : Edge R} {kind : String}

theorem hasKind_representative (summarizes : merge.Summarizes graph.nodes)
    (unique : (graph.nodes.map Node.id).Nodup) (hasKind : HasKind graph.nodes id kind) :
    HasKind merge.nodes (merge.representative id) kind := by
  rcases hasKind with ⟨node, node_mem, rfl, rfl⟩
  have named := (summarizes.names_representative_iff unique node_mem).mpr rfl
  rcases List.mem_map.mp named with ⟨representative, representative_mem, same⟩
  rcases Prod.mk.inj same with ⟨sameId, sameKey⟩
  exact ⟨representative, representative_mem, sameId, congrArg Prod.snd sameKey⟩

theorem fits_redirect (summarizes : merge.Summarizes graph.nodes)
    (unique : (graph.nodes.map Node.id).Nodup) (fits : Fits graph.nodes edge) :
    Fits merge.nodes (merge.redirect edge) where
  doing := by
    intro relation
    rcases fits.doing relation with ⟨source, target⟩
    exact ⟨hasKind_representative summarizes unique source,
      hasKind_representative summarizes unique target⟩
  undergoing := by
    intro relation
    rcases fits.undergoing relation with ⟨source, target⟩
    exact ⟨hasKind_representative summarizes unique source,
      hasKind_representative summarizes unique target⟩
  unmodified := fits.unmodified

/-- A merged node has the label and the kind of one that there was before. -/
theorem exists_key_eq (summarizes : merge.Summarizes graph.nodes) {node : Node R}
    (node_mem : node ∈ merge.nodes) : ∃ original ∈ graph.nodes, original.key = node.key := by
  have identified : node.identity ∈ merge.nodes.map Node.identity := List.mem_map_of_mem node_mem
  rw [summarizes.identities] at identified
  rcases List.mem_map.mp identified with ⟨original, original_mem, same⟩
  exact ⟨original, mem_of_mem_firstsBy original_mem, congrArg Prod.snd same⟩

/-- Reducing a typed graph leaves a typed graph. -/
theorem reduce [Quantity R] (typed : graph.Typed) (merged : Merge.ofNodes graph.nodes = .ok merge) :
    ∃ reduced, graph.reduce = .ok reduced ∧ reduced.toKnowledgeGraph.Typed := by
  have summarizes := Merge.summarizes_of_ofNodes merged
  rcases exists_reduce merged with ⟨reduced, succeeds, nodes, edges⟩
  refine ⟨reduced, succeeds, ?_⟩
  constructor
  · rw [nodes]
    exact summarizes.nodup_map_id typed.unique
  · intro node node_mem
    rw [nodes] at node_mem
    rcases exists_key_eq summarizes node_mem with ⟨original, original_mem, same⟩
    rcases Prod.mk.inj same with ⟨_, sameKind⟩
    rw [← sameKind]
    exact typed.kinds original original_mem
  · intro entity entity_mem action action_mem isEntity isAction
    rw [nodes] at entity_mem action_mem
    rcases exists_key_eq summarizes entity_mem with ⟨first, first_mem, firstKey⟩
    rcases exists_key_eq summarizes action_mem with ⟨second, second_mem, secondKey⟩
    rcases Prod.mk.inj firstKey with ⟨firstLabel, firstKind⟩
    rcases Prod.mk.inj secondKey with ⟨secondLabel, secondKind⟩
    rw [← firstLabel, ← secondLabel]
    apply typed.apart first first_mem second second_mem
    · exact firstKind.trans isEntity
    · exact secondKind.trans isAction
  · intro edge edge_mem
    rw [edges, Edge.dropRepeated_fst] at edge_mem
    have kept := mem_of_mem_firstsBy (List.mem_of_mem_filter (List.mem_of_mem_filter edge_mem))
    rcases List.mem_map.mp kept with ⟨original, original_mem, rfl⟩
    rw [nodes]
    exact fits_redirect summarizes typed.unique (typed.edges original original_mem)

end Reduced

end Typed

/-- The words of a class of parts of speech name nodes of a kind. -/
inductive GoesWith : (PartOfSpeech → Bool) → String → Prop where
  | entity : GoesWith PartOfSpeech.isNominal Node.entityKind
  | action : GoesWith PartOfSpeech.isVerbal Node.actionKind

/-- A word is of one class at most, so that its tag settles the kind. -/
theorem GoesWith.kind_eq {choice other : PartOfSpeech → Bool} {kind otherKind : String}
    (goesWith : GoesWith choice kind) (otherGoesWith : GoesWith other otherKind)
    (tagged : token.isTagged choice = true) (otherTagged : token.isTagged other = true) :
    kind = otherKind := by
  cases goesWith with
  | entity =>
      cases otherGoesWith with
      | entity => rfl
      | action => exact absurd otherTagged (Token.not_verbal_of_nominal tagged)
  | action =>
      cases otherGoesWith with
      | entity => exact absurd tagged (Token.not_verbal_of_nominal otherTagged)
      | action => rfl

section Sentences

variable [Quantity R] {memory : ContextMemory R} {graph : SemanticGraph R} {node : Node R}
  {label : String} {id : Int}

omit [Quantity R] in
theorem cases_of_mem_nodesOf (node_mem : node ∈ nodesOf graph) :
    (node.kind = Node.entityKind ∧ node.label ∈ graph.names) ∨
      (node.kind = Node.actionKind ∧ node.label ∈ graph.verbs) := by
  have filed : node.key ∈ (nodesOf graph).map Node.key := List.mem_map_of_mem node_mem
  rw [map_key_nodesOf, List.mem_append] at filed
  rcases filed with ofEntity | ofAction
  · rcases List.mem_map.mp ofEntity with ⟨entity, entity_mem, same⟩
    rcases Prod.mk.inj same with ⟨sameLabel, sameKind⟩
    rw [← sameLabel, ← sameKind]
    exact Or.inl ⟨rfl, List.mem_map_of_mem entity_mem⟩
  · rcases List.mem_map.mp ofAction with ⟨action, action_mem, same⟩
    rcases Prod.mk.inj same with ⟨sameLabel, sameKind⟩
    rw [← sameLabel, ← sameKind]
    exact Or.inr ⟨rfl, List.mem_map_of_mem action_mem⟩

/-- An entity is named by a nominal. -/
theorem exists_nominal_of_mem_names
    (named : label ∈ (SemanticGraph.ofTree (.ofTokens tokens) tokens memory).names) :
    ∃ token ∈ tokens, token.word = label ∧ token.isTagged PartOfSpeech.isNominal = true := by
  rcases SemanticGraph.mem_names_ofTree.mp named with ⟨clause, clause_mem, slot, slot_mem, rfl⟩
  have drawn := Clause.drawnFrom_of_mem_ofTokens clause_mem
  rcases List.mem_append.mp slot_mem with isSubject | isObject
  · rcases drawn.subject slot (Option.mem_toList.mp isSubject) with ⟨token, token_mem, tagged, rfl⟩
    exact ⟨token, token_mem, rfl, tagged⟩
  · rcases drawn.objects slot isObject with ⟨token, token_mem, tagged, rfl⟩
    refine ⟨token, token_mem, rfl, ?_⟩
    apply Token.isTagged_iff.mpr
    exact ⟨.noun, Token.isTagged_eq_iff.mp tagged, rfl⟩

/-- An action is named by a verbal. -/
theorem exists_verbal_of_mem_verbs
    (done : label ∈ (SemanticGraph.ofTree (.ofTokens tokens) tokens memory).verbs) :
    ∃ token ∈ tokens, token.word = label ∧ token.isTagged PartOfSpeech.isVerbal = true := by
  rcases SemanticGraph.mem_verbs_ofTree.mp done with ⟨clause, clause_mem, slot, isPredicate, rfl⟩
  have drawn := Clause.drawnFrom_of_mem_ofTokens clause_mem
  rcases drawn.predicate slot isPredicate with ⟨token, token_mem, tagged, rfl⟩
  exact ⟨token, token_mem, rfl, tagged⟩

variable (consistent : Token.Consistent tokens) (token_mem : token ∈ tokens)

include consistent token_mem

theorem isNominal_of_mem_names
    (named : token.word ∈ (SemanticGraph.ofTree (.ofTokens tokens) tokens memory).names) :
    token.isTagged PartOfSpeech.isNominal = true := by
  rcases exists_nominal_of_mem_names named with ⟨other, other_mem, same, tagged⟩
  exact consistent.isTagged other_mem token_mem same tagged

theorem isVerbal_of_mem_verbs
    (done : token.word ∈ (SemanticGraph.ofTree (.ofTokens tokens) tokens memory).verbs) :
    token.isTagged PartOfSpeech.isVerbal = true := by
  rcases exists_verbal_of_mem_verbs done with ⟨other, other_mem, same, tagged⟩
  exact consistent.isTagged other_mem token_mem same tagged

/-- What a word of the sentence finds by its label alone is of the kind that goes with its tag. -/
theorem exists_goesWith_of_any?
    (found : (LabelIndex.ofNodes (nodesOf (.ofTree (.ofTokens tokens) tokens memory))).any?
      token.word = some id) :
    ∃ choice kind, GoesWith choice kind ∧ token.isTagged choice = true ∧
      HasKind (nodesOf (.ofTree (.ofTokens tokens) tokens memory)) id kind := by
  rcases labels_of_any? found with ⟨node, node_mem, sameId, labelled⟩
  rcases cases_of_mem_nodesOf node_mem with ⟨isEntity, named⟩ | ⟨isAction, done⟩
  · rw [labelled] at named
    have nominal := isNominal_of_mem_names consistent token_mem named
    exact ⟨_, _, .entity, nominal, node, node_mem, sameId, isEntity⟩
  · rw [labelled] at done
    have verbal := isVerbal_of_mem_verbs consistent token_mem done
    exact ⟨_, _, .action, verbal, node, node_mem, sameId, isAction⟩

theorem hasKind_of_any? {choice : PartOfSpeech → Bool} {kind : String}
    (goesWith : GoesWith choice kind) (tagged : token.isTagged choice = true)
    (found : (LabelIndex.ofNodes (nodesOf (.ofTree (.ofTokens tokens) tokens memory))).any?
      token.word = some id) :
    HasKind (nodesOf (.ofTree (.ofTokens tokens) tokens memory)) id kind := by
  rcases exists_goesWith_of_any? consistent token_mem found with
    ⟨other, otherKind, otherGoesWith, otherTagged, hasKind⟩
  rw [goesWith.kind_eq otherGoesWith tagged otherTagged]
  exact hasKind

/-- An adjective has no node. -/
theorem any?_ne_of_adjective (adjective : token.isTagged (· == .adjective) = true) :
    (LabelIndex.ofNodes (nodesOf (.ofTree (.ofTokens tokens) tokens memory))).any? token.word ≠
      some id := by
  intro found
  rcases exists_goesWith_of_any? consistent token_mem found with
    ⟨choice, kind, goesWith, tagged, _⟩
  rcases Token.exists_common tagged adjective with ⟨part, chosen, isAdjective⟩
  cases goesWith <;> cases part <;> contradiction

omit token_mem

/-- The edge of a dependency joins nodes of the right kinds, although it finds them by label alone. -/
theorem fits_of_dependency {dependency : Dependency R} {source target : Int}
    (dependency_mem : dependency ∈ Dependency.ofTokens tokens)
    (head : (LabelIndex.ofNodes (nodesOf (.ofTree (.ofTokens tokens) tokens memory))).any?
      dependency.head = some source)
    (dependent : (LabelIndex.ofNodes (nodesOf (.ofTree (.ofTokens tokens) tokens memory))).any?
      dependency.dependent = some target) :
    Fits (nodesOf (.ofTree (.ofTokens tokens) tokens memory))
      ⟨source, target, dependency.relation, dependency.confidence⟩ := by
  rcases Dependency.mem_ofTokens_iff.mp dependency_mem with ⟨earlier, token, later, split, starts⟩
  have token_mem : token ∈ tokens := by simp [split]
  have later_mem : ∀ other ∈ later, other ∈ tokens := by
    intro other other_mem
    simp [split, other_mem]
  cases starts with
  | @subject verb nominal found =>
      have verb_mem := later_mem verb (List.mem_of_find?_eq_some found)
      have verbal : verb.isTagged PartOfSpeech.isVerbal = true := by simpa using List.find?_some found
      constructor
      · intro _
        exact ⟨hasKind_of_any? consistent token_mem .entity nominal head,
          hasKind_of_any? consistent verb_mem .action verbal dependent⟩
      · simp [Dependency.subjectOf]
      · simp [Dependency.subjectOf]
  | @object noun verb found =>
      have noun_mem := later_mem noun (List.mem_of_find?_eq_some found)
      have isNoun : noun.isTagged (· == .noun) = true := by simpa using List.find?_some found
      have verbal : token.isTagged PartOfSpeech.isVerbal = true :=
        Token.isTagged_iff.mpr ⟨.verb, Token.isTagged_eq_iff.mp verb, rfl⟩
      have nominal : noun.isTagged PartOfSpeech.isNominal = true :=
        Token.isTagged_iff.mpr ⟨.noun, Token.isTagged_eq_iff.mp isNoun, rfl⟩
      constructor
      · simp [Dependency.objectOf]
      · intro _
        exact ⟨hasKind_of_any? consistent token_mem .action verbal head,
          hasKind_of_any? consistent noun_mem .entity nominal dependent⟩
      · simp [Dependency.objectOf]
  | modifier adjective next isNoun =>
      exact absurd dependent (any?_ne_of_adjective consistent token_mem adjective)
  | conjunction joins =>
      constructor
      · simp [Dependency.conjunctsOf]
      · simp [Dependency.conjunctsOf]
      · simp [Dependency.conjunctsOf]

/-- The graph of a sentence is typed if the tag of a word depends on the word. -/
theorem typed_ofTokens (memory : ContextMemory R) :
    (ofSemanticGraph (.ofTree (.ofTokens tokens) tokens memory)).Typed where
  unique := nodup_map_id_nodesOf
  kinds := by
    intro node node_mem
    rcases cases_of_mem_nodesOf node_mem with ⟨isEntity, _⟩ | ⟨isAction, _⟩
    · exact Or.inl isEntity
    · exact Or.inr isAction
  apart := by
    intro entity entity_mem action action_mem isEntity isAction same
    have named : entity.label ∈ (SemanticGraph.ofTree (.ofTokens tokens) tokens memory).names := by
      apply entity_mem_keys.mp
      rw [← isEntity]
      exact List.mem_map_of_mem entity_mem
    have done : entity.label ∈ (SemanticGraph.ofTree (.ofTokens tokens) tokens memory).verbs := by
      apply action_mem_keys.mp
      rw [← isAction, same]
      exact List.mem_map_of_mem action_mem
    rcases exists_nominal_of_mem_names named with ⟨token, token_mem, word, nominal⟩
    rw [← word] at done
    exact Token.not_verbal_of_nominal nominal (isVerbal_of_mem_verbs consistent token_mem done)
  edges := by
    intro edge edge_mem
    rcases List.mem_flatMap.mp edge_mem with ⟨relationship, relationship_mem, edge_mem⟩
    cases relationship with
    | deed subject action objects clause confidence =>
        rcases mem_edgesOf_deed.mp edge_mem with ⟨deed, actionFound, made⟩
        rcases made with ⟨actor, found, rfl⟩ | ⟨object, _, id, found, rfl⟩
        · constructor
          · intro _
            exact ⟨hasKind_of_find? found, hasKind_of_find? actionFound⟩
          · simp [performs]
          · simp [performs]
        · constructor
          · simp [affects]
          · intro _
            exact ⟨hasKind_of_find? actionFound, hasKind_of_find? found⟩
          · simp [affects]
    | dependency relation head dependent confidence =>
        rcases mem_edgesOf_dependency.mp edge_mem with ⟨source, target, headFound, dependentFound, rfl⟩
        rcases SemanticGraph.exists_dependency_of_mem relationship_mem with
          ⟨dependency, dependency_mem, rfl, rfl, rfl, rfl⟩
        exact fits_of_dependency consistent dependency_mem headFound dependentFound

end Sentences

/-- The graph of a text is typed, before and after its reduction, and a dependency finds by label
what it would find by label and kind. -/
theorem reduce_typed [Quantity R] (text : String) (dictionary : String → Option (Entry R))
    (memory : ContextMemory R) :
    let tokens := Tagging.ofText text dictionary
    let graph := ofSemanticGraph (.ofTree (.ofTokens tokens) tokens memory)
    ∃ reduced, graph.reduce = .ok reduced ∧ graph.Typed ∧ reduced.toKnowledgeGraph.Typed ∧
      ∀ label id, (LabelIndex.ofNodes graph.nodes).any? label = some id ↔
        ∃ kind, (LabelIndex.ofNodes graph.nodes).find? label kind = some id := by
  intro tokens graph
  have typed : graph.Typed := typed_ofTokens (Tagging.consistent_ofText text dictionary) memory
  have measured : ∀ node ∈ graph.nodes, node.IsMeasured := fun _ => isMeasured_of_mem_nodesOf
  rcases Merge.exists_ofNodes measured with ⟨merge, merged⟩
  rcases typed.reduce merged with ⟨reduced, succeeds, reducedTyped⟩
  refine ⟨reduced, succeeds, typed, reducedTyped, ?_⟩
  intro label id
  exact typed.any?_eq_some_iff

end KnowledgeGraph

end SentenceGraph
