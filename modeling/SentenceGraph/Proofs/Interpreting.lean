import SentenceGraph.Proofs.Accounting
import SentenceGraph.Proofs.Dividing
import SentenceGraph.Proofs.Segmenting

/-!
# Semantic graphs in step with their tokens

Tokens, slots, entities and scores are lists of their own. The position of a slot is the place of
the token that it came from, so that what is looked up there is that token; this is why each
confidence is that of the right word, even if words are repeated. Clauses are numbered as segments
are, whether or not they have a subject.

The mean takes in the actions and the objects, clause by clause. On rational numbers the order does
not matter.
-/

namespace SentenceGraph

variable {R : Type} {tokens segment : List (Token R)} {token : Token R}

namespace SemanticGraph

theorem isKnown_ofToken (placed : Token.Placed tokens) (token_mem : token ∈ tokens) :
    isKnown tokens (.ofToken token) = token.hasEntry := by
  rcases List.getElem?_of_mem token_mem with ⟨place, found⟩
  have position : (Slot.ofToken token).position = (place : Int) := placed place token found
  simp [isKnown, position, found]

/-- Every slot has the place of the token that it came from. -/
theorem exists_place_of_mem_slots (placed : Token.Placed tokens) {clause : Clause R}
    {slot : Slot R} (clause_mem : clause ∈ Clause.ofTokens tokens)
    (slot_mem : slot ∈ clause.slots) :
    ∃ (place : Nat) (token : Token R),
      slot.position = place ∧ tokens[place]? = some token ∧ slot = .ofToken token := by
  rw [Clause.ofTokens_eq_map_segments] at clause_mem
  rcases List.mem_map.mp clause_mem with ⟨segment, segment_mem, rfl⟩
  rcases Clause.exists_token_of_mem_slots slot_mem with ⟨token, token_mem, rfl⟩
  have kept := (Clause.mem_of_mem_segment segment_mem token_mem).1
  rcases List.getElem?_of_mem kept with ⟨place, found⟩
  exact ⟨place, token, placed place token found, found, rfl⟩

theorem mem_of_mem_parts (segment_mem : segment ∈ Clause.segments tokens)
    (token_mem : token ∈ (Segment.subject? segment).toList ++ (Segment.predicate? segment).toList ++
      Segment.objects segment ++ Segment.modifiers segment) : token ∈ tokens :=
  (Clause.mem_of_mem_segment segment_mem (Segment.mem_of_mem_parts token_mem)).1

end SemanticGraph

variable [Quantity R]

namespace Segment

/-- The entity of a token in a role, with a confidence for words with an entry and one for words
without. -/
def entityOf (role : String) (known unknown : R) (clause : Nat) (token : Token R) : Entity R where
  name := token.word
  role
  tag := token.tag
  definition := token.definition
  clause
  confidence := if token.hasEntry then known else unknown

variable (segment) (clause : Nat)

/-- The entities of the clause of a segment: its subject, if there is one, then its objects. -/
def entities : List (Entity R) :=
  (subject? segment).toList.map (entityOf subjectRole 0.9 0.6 clause) ++
    (objects segment).map (entityOf objectRole 0.8 0.5 clause)

/-- The action of the clause of a segment, if it has a predicate. -/
def action? : Option (Action R) :=
  (predicate? segment).map fun token =>
    { verb := token.word
      definition := token.definition
      actor := ((subject? segment).map Token.word).getD unknownName
      clause
      confidence := if token.hasEntry then 0.85 else 0.5 }

/-- The relationship of the clause of a segment, if it has a subject and a predicate. -/
def deed? : Option (Relationship R) :=
  match subject? segment, predicate? segment with
  | some subject, some predicate =>
      some (.deed subject.word predicate.word ((objects segment).map Token.word) clause 0.8)
  | _, _ => none

end Segment

namespace SemanticGraph

/-- The confidences of the actions and the objects of a graph. -/
def scores (graph : SemanticGraph R) : List R :=
  graph.actions.map Action.confidence ++
    (graph.entities.filter (·.role == objectRole)).map Entity.confidence

/-- A graph has what the segments of a sentence give, segment by segment and with the number of the
segment, and then what its dependencies give. It has the mean confidence of its actions and objects,
and the share of tokens with an entry. -/
structure InStep (tokens : List (Token R)) (graph : SemanticGraph R) : Prop where
  entities : graph.entities =
    (Clause.segments tokens).zipIdx.flatMap fun (segment, clause) =>
      Segment.entities segment clause
  actions : graph.actions =
    (Clause.segments tokens).zipIdx.filterMap fun (segment, clause) =>
      Segment.action? segment clause
  relationships : graph.relationships =
    ((Clause.segments tokens).zipIdx.filterMap fun (segment, clause) =>
        Segment.deed? segment clause) ++
      (Dependency.ofTokens tokens).map .ofDependency
  mean : ∃ scores, scores.Perm graph.scores ∧ graph.overallConfidence = meanScore scores
  share : graph.knownShare =
    if tokens.isEmpty then 0.0 else Quantity.ratio (tokens.countP Token.hasEntry) tokens.length

theorem clauseDeed?_ofSegment (clause : Nat) :
    clauseDeed? (.ofSegment segment) clause = Segment.deed? segment clause := by
  simp only [clauseDeed?, Segment.deed?, Clause.ofSegment]
  cases Segment.subject? segment with
  | none => rfl
  | some subject =>
      cases Segment.predicate? segment with
      | none => rfl
      | some predicate => simp [Slot.ofToken, Function.comp_def]

section Placed

variable (placed : Token.Placed tokens)

include placed

theorem subjectEntity_ofToken (token_mem : token ∈ tokens) (clause : Nat) :
    subjectEntity tokens clause (.ofToken token) =
      Segment.entityOf subjectRole 0.9 0.6 clause token := by
  rw [subjectEntity, isKnown_ofToken placed token_mem]
  rfl

theorem objectEntity_ofToken (token_mem : token ∈ tokens) (clause : Nat) :
    objectEntity tokens clause (.ofToken token) =
      Segment.entityOf objectRole 0.8 0.5 clause token := by
  rw [objectEntity, isKnown_ofToken placed token_mem]
  rfl

variable (segment_mem : segment ∈ Clause.segments tokens) (clause : Nat)

include segment_mem

theorem clauseEntities_ofSegment :
    clauseEntities tokens (.ofSegment segment) clause = Segment.entities segment clause := by
  simp only [clauseEntities, Segment.entities, Clause.ofSegment, Option.map_map, Option.toList_map,
    List.map_map]
  congr 1
  · apply List.map_congr_left
    intro token isSubject
    apply subjectEntity_ofToken placed
    exact mem_of_mem_parts segment_mem (by simp only [List.mem_append, isSubject, true_or])
  · apply List.map_congr_left
    intro token isObject
    apply objectEntity_ofToken placed
    exact mem_of_mem_parts segment_mem (by simp only [List.mem_append, isObject, true_or, or_true])

theorem clauseAction?_ofSegment :
    clauseAction? tokens (.ofSegment segment) clause = Segment.action? segment clause := by
  simp only [clauseAction?, Segment.action?, Clause.ofSegment, Option.map_map]
  apply Option.map_congr
  intro token isPredicate
  have token_mem : token ∈ tokens := by
    apply mem_of_mem_parts segment_mem
    simp only [List.mem_append, Option.mem_toList, isPredicate, true_or, or_true]
  rw [Function.comp_apply, predicateAction, isKnown_ofToken placed token_mem, Option.map_map]
  rfl

end Placed

section Scores

variable (tree : ParseTree R) (tokens : List (Token R)) (memory : ContextMemory R)

theorem filter_clauseEntities (clause : Clause R) (index : Nat) :
    (clauseEntities tokens clause index).filter (·.role == objectRole) =
      clause.objects.map (objectEntity tokens index) := by
  have subjects : (clause.subject.map (subjectEntity tokens index)).toList.filter
      (·.role == objectRole) = [] := by
    apply List.filter_eq_nil_iff.mpr
    intro entity isSubject
    rcases Option.map_eq_some_iff.mp (Option.mem_toList.mp isSubject) with ⟨slot, _, rfl⟩
    simp [subjectEntity, subjectRole, objectRole]
  have objects : (clause.objects.map (objectEntity tokens index)).filter (·.role == objectRole) =
      clause.objects.map (objectEntity tokens index) := by
    apply List.filter_eq_self.mpr
    intro entity isObject
    rcases List.mem_map.mp isObject with ⟨slot, _, rfl⟩
    simp [objectEntity]
  rw [clauseEntities, List.filter_append, subjects, objects, List.nil_append]

/-- The scores of a sentence are those of its actions and of its objects. -/
theorem scores_perm :
    (tree.clauses.zipIdx.flatMap fun (clause, index) => clauseScores tokens clause index).Perm
      (ofTree tree tokens memory).scores := by
  have split := List.flatMap_append_perm tree.clauses.zipIdx
    (fun item => ((clauseAction? tokens item.1 item.2).map Action.confidence).toList)
    (fun item => item.1.objects.map fun slot => (objectEntity tokens item.2 slot).confidence)
  have actions : (ofTree tree tokens memory).actions.map Action.confidence =
      tree.clauses.zipIdx.flatMap fun item =>
        ((clauseAction? tokens item.1 item.2).map Action.confidence).toList := by
    simp only [ofTree, List.filterMap_eq_flatMap_toList, List.map_flatMap, Option.toList_map]
  have objects : ((ofTree tree tokens memory).entities.filter (·.role == objectRole)).map
      Entity.confidence =
      tree.clauses.zipIdx.flatMap fun item =>
        item.1.objects.map fun slot => (objectEntity tokens item.2 slot).confidence := by
    simp only [ofTree, List.filter_flatMap, List.map_flatMap, filter_clauseEntities, List.map_map]
    rfl
  rw [scores, actions, objects]
  exact split.symm

end Scores

theorem inStep_ofTree (placed : Token.Placed tokens) (memory : ContextMemory R) :
    InStep tokens (ofTree (.ofTokens tokens) tokens memory) := by
  have numbered : (Clause.ofTokens tokens).zipIdx =
      (Clause.segments tokens).zipIdx.map (Prod.map .ofSegment id) := by
    rw [Clause.ofTokens_eq_map_segments, List.zipIdx_map]
  constructor
  · simp only [ofTree, ParseTree.ofTokens, numbered, List.flatMap_map]
    apply List.flatMap_congr
    intro item item_mem
    exact clauseEntities_ofSegment placed (List.fst_mem_of_mem_zipIdx item_mem) item.2
  · simp only [ofTree, ParseTree.ofTokens, numbered, List.filterMap_map]
    apply List.filterMap_congr
    intro item item_mem
    exact clauseAction?_ofSegment placed (List.fst_mem_of_mem_zipIdx item_mem) item.2
  · simp only [ofTree, ParseTree.ofTokens, numbered, List.filterMap_map]
    congr 1
    apply List.filterMap_congr
    intro item item_mem
    exact clauseDeed?_ofSegment item.2
  · exact ⟨_, scores_perm _ tokens memory, rfl⟩
  · rfl

section Share

variable {tree : ParseTree R} {memory : ContextMemory R}

theorem knownShare_of_ne_nil (given : tokens ≠ []) :
    (ofTree tree tokens memory).knownShare =
      Quantity.ratio (tokens.countP Token.hasEntry) tokens.length := by
  have notEmpty : ¬tokens.isEmpty := by simpa using given
  exact if_neg notEmpty

theorem knownShare_nil : (ofTree tree [] memory).knownShare = 0.0 := rfl

end Share

theorem overallConfidence_exact (tree : ParseTree ℚ) (tokens : List (Token ℚ))
    (memory : ContextMemory ℚ) :
    let graph := ofTree tree tokens memory
    graph.overallConfidence =
      if graph.scores = [] then 1 / 2 else graph.scores.sum / graph.scores.length := by
  intro graph
  have same := scores_perm tree tokens memory
  change meanScore _ = _
  split
  case isTrue none =>
    rw [none, List.perm_nil] at same
    rw [same]
    norm_num [meanScore]
  case isFalse given =>
    rw [meanScore_exact, same.sum_eq, same.length_eq]
    intro none
    rw [none, List.nil_perm] at same
    exact given same

theorem knownShare_exact (tree : ParseTree ℚ) (tokens : List (Token ℚ))
    (memory : ContextMemory ℚ) :
    let graph := ofTree tree tokens memory
    graph.knownShare = (tokens.countP Token.hasEntry : ℚ) / tokens.length ∧
      0 ≤ graph.knownShare ∧ graph.knownShare ≤ 1 := by
  intro graph
  have within : tokens.countP Token.hasEntry ≤ tokens.length := List.countP_le_length
  have share : graph.knownShare = (tokens.countP Token.hasEntry : ℚ) / tokens.length := by
    cases tokens with
    | nil => norm_num [graph, knownShare_nil]
    | cons token rest => exact (knownShare_of_ne_nil (by simp)).trans (Quantity.ratio_exact _ _)
  refine ⟨share, ?_, ?_⟩
  · rw [share]
    positivity
  · rw [share]
    apply div_le_one_of_le₀
    · exact_mod_cast within
    · positivity

theorem knownShare_between (tree : ParseTree Float) {tokens : List (Token Float)}
    (memory : ContextMemory Float) (few : tokens.length < 2 ^ 53) :
    0.0 ≤ (ofTree tree tokens memory).knownShare ∧
      (ofTree tree tokens memory).knownShare ≤ 1.0 := by
  cases tokens with
  | nil =>
      rw [knownShare_nil]
      decide +kernel
  | cons token rest =>
      rw [knownShare_of_ne_nil (by simp)]
      exact Quantity.ratio_between List.countP_le_length (by simp) few

/-- If every token has its place as its index, then the graph of a sentence is in step with the
tokens and every slot is looked up where its token is. Without rounding, the overall confidence is
the mean of the scores, or one half for none, and the share of known tokens lies between zero and
one. On binary numbers it does so too, as long as the tokens can be counted exactly. -/
theorem ofTree_keeps_step :
    (∀ {R : Type} [Quantity R] {tokens : List (Token R)} (memory : ContextMemory R),
      Token.Placed tokens →
        (ofTree (.ofTokens tokens) tokens memory).InStep tokens ∧
          ∀ clause ∈ Clause.ofTokens tokens, ∀ slot ∈ clause.slots,
            ∃ (place : Nat) (token : Token R),
              slot.position = place ∧ tokens[place]? = some token ∧ slot = .ofToken token) ∧
      (∀ (tokens : List (Token ℚ)) (memory : ContextMemory ℚ),
        let graph := ofTree (.ofTokens tokens) tokens memory
        graph.overallConfidence =
            (if graph.scores = [] then 1 / 2 else graph.scores.sum / graph.scores.length) ∧
          graph.knownShare = (tokens.countP Token.hasEntry : ℚ) / tokens.length ∧
          0 ≤ graph.knownShare ∧ graph.knownShare ≤ 1) ∧
      ∀ (tokens : List (Token Float)) (memory : ContextMemory Float), tokens.length < 2 ^ 53 →
        0.0 ≤ (ofTree (.ofTokens tokens) tokens memory).knownShare ∧
          (ofTree (.ofTokens tokens) tokens memory).knownShare ≤ 1.0 := by
  refine ⟨?_, ?_, ?_⟩
  · intro R quantity tokens memory placed
    refine ⟨inStep_ofTree placed memory, ?_⟩
    intro clause clause_mem slot slot_mem
    exact exists_place_of_mem_slots placed clause_mem slot_mem
  · intro tokens memory graph
    exact ⟨overallConfidence_exact _ tokens memory, knownShare_exact _ tokens memory⟩
  · intro tokens memory few
    exact knownShare_between _ memory few

theorem ofTree_keeps_step_cats :
    let known : Entry Float :=
      { word := .text "cats", phonetic := .null, meanings := [], origin := .null }
    let tokens := Tagging.tokens ["cats", "chased", "dogs", "and", "they", "slept"]
      [some known, none, none, none, none, none]
    let graph := ofTree (.ofTokens tokens) tokens (.empty .default)
    Token.Placed tokens ∧ graph.InStep tokens ∧
      tokens.length < 2 ^ 53 ∧ 0.0 ≤ graph.knownShare ∧ graph.knownShare ≤ 1.0 ∧
      graph.entities.map Entity.name = ["cats", "dogs", "they"] := by
  intro known tokens graph
  have placed : Token.Placed tokens := Tagging.placed_tokens _ _
  have few : tokens.length < 2 ^ 53 := by decide
  rcases ofTree_keeps_step with ⟨steps, _, bounds⟩
  have between := bounds tokens (.empty .default) few
  exact ⟨placed, (steps (.empty .default) placed).1, few, between.1, between.2, by decide +kernel⟩

end SemanticGraph

end SentenceGraph
