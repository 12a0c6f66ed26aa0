import SentenceGraph.Proofs.Parsing
import SentenceGraph.Proofs.Reducing

/-!
# What conjunctions join

A conjunction relates the word before it to the word after it. Where there is no such word, a stand-in
takes its place, which is an ordinary text. The edges of conjunctions are exactly those whose two
words, stand-ins included, are labels of nodes. In a sentence that says neither of the stand-ins in
a slot, each of these edges joins the neighbours of a conjunction; in a sentence that does, the word
of the slot is taken for the missing neighbour.
-/

namespace SentenceGraph

variable {R : Type} {tokens : List (Token R)}

/-- A conjunction of a sentence, with the tokens before it and those after it. -/
def Token.Joins (token : Token R) (tokens earlier later : List (Token R)) : Prop :=
  tokens = earlier ++ token :: later ∧ token.isTagged (· == .conjunction) = true

theorem Token.Joins.mem_tail {token left : Token R} {earlier later : List (Token R)}
    (joins : token.Joins tokens (earlier ++ [left]) later) : token ∈ tokens.tail := by
  rw [joins.1]
  cases earlier with
  | nil => simp
  | cons first rest => simp

namespace Dependency

/-- The word before a place of a sentence, or what stands for it. -/
def wordBefore (earlier : List (Token R)) : String :=
  (earlier.getLast?.map Token.word).getD startWord

/-- The word after a place of a sentence, or what stands for it. -/
def wordAfter (later : List (Token R)) : String :=
  (later.head?.map Token.word).getD endWord

theorem wordBefore_concat (earlier : List (Token R)) (left : Token R) :
    wordBefore (earlier ++ [left]) = left.word := by
  simp [wordBefore]

theorem wordAfter_cons (right : Token R) (later : List (Token R)) :
    wordAfter (right :: later) = right.word := by
  simp [wordAfter]

variable [Quantity R]

theorem exists_joins_of_mem {dependency : Dependency R} (dependency_mem : dependency ∈ ofTokens tokens)
    (relation : dependency.relation = "conj") :
    ∃ earlier token later, Token.Joins token tokens earlier later ∧
      dependency = conjunctsOf (wordBefore earlier) (wordAfter later) token.word := by
  rcases mem_ofTokens_iff.mp dependency_mem with ⟨earlier, token, later, split, starts⟩
  cases starts with
  | subject nominal found => simp [subjectOf] at relation
  | object verb found => simp [objectOf] at relation
  | modifier adjective next isNoun => simp [modifierOf] at relation
  | conjunction joins => exact ⟨earlier, token, later, ⟨split, joins⟩, rfl⟩

theorem conjunctsOf_mem {token : Token R} {earlier later : List (Token R)}
    (joins : token.Joins tokens earlier later) :
    conjunctsOf (wordBefore earlier) (wordAfter later) token.word ∈ ofTokens tokens := by
  apply mem_ofTokens_iff.mpr
  exact ⟨earlier, token, later, joins.1, .conjunction joins.2⟩

end Dependency

namespace KnowledgeGraph

open Dependency

variable [Quantity R] {tree : ParseTree R} {memory : ContextMemory R} {edge : Edge R}
  {label : String}

/-- The words that have nodes are those that fill slots. -/
theorem exists_any?_nodesOf_iff (memory : ContextMemory R) :
    (∃ id, (LabelIndex.ofNodes (nodesOf (.ofTree tree tokens memory))).any? label = some id) ↔
      tree.Fills label := by
  rw [exists_any?_iff, mem_labels, SemanticGraph.fills_iff]

theorem mem_edges_conj_iff :
    edge ∈ (ofSemanticGraph (.ofTree (.ofTokens tokens) tokens memory)).edges ∧
        edge.relation = "conj" ↔
      edge.relation = "conj" ∧ edge.confidence = 0.75 ∧
        ∃ earlier token later, Token.Joins token tokens earlier later ∧
          (LabelIndex.ofNodes (nodesOf (.ofTree (.ofTokens tokens) tokens memory))).any?
              (wordBefore earlier) = some edge.source ∧
            (LabelIndex.ofNodes (nodesOf (.ofTree (.ofTokens tokens) tokens memory))).any?
              (wordAfter later) = some edge.target := by
  constructor
  · rintro ⟨edge_mem, relation⟩
    refine ⟨relation, ?_⟩
    rcases List.mem_flatMap.mp edge_mem with ⟨relationship, relationship_mem, edge_mem⟩
    cases relationship with
    | deed subject action objects clause confidence =>
        rcases mem_edgesOf_deed.mp edge_mem with ⟨deed, _, ⟨actor, _, rfl⟩ | ⟨_, _, object, _, rfl⟩⟩
        · simp [performs] at relation
        · simp [affects] at relation
    | dependency name head dependent confidence =>
        rcases mem_edgesOf_dependency.mp edge_mem with ⟨source, target, headFound, dependentFound, rfl⟩
        rcases SemanticGraph.exists_dependency_of_mem relationship_mem with
          ⟨dependency, dependency_mem, rfl, rfl, rfl, rfl⟩
        rcases exists_joins_of_mem dependency_mem relation with ⟨earlier, token, later, joins, rfl⟩
        exact ⟨rfl, earlier, token, later, joins, headFound, dependentFound⟩
  · rintro ⟨relation, confidence, earlier, token, later, joins, headFound, dependentFound⟩
    refine ⟨?_, relation⟩
    apply List.mem_flatMap.mpr
    refine ⟨_, SemanticGraph.dependency_mem_ofTree (conjunctsOf_mem joins), ?_⟩
    apply mem_edgesOf_dependency.mpr
    refine ⟨edge.source, edge.target, headFound, dependentFound, ?_⟩
    cases edge
    simp_all [conjunctsOf]

/-- A conjunction leaves an edge where the words beside it fill slots, even if one is a stand-in. -/
theorem exists_edge_of_joins {token : Token R} {earlier later : List (Token R)}
    (joins : token.Joins tokens earlier later) (memory : ContextMemory R)
    (before : (ParseTree.ofTokens tokens).Fills (wordBefore earlier))
    (after : (ParseTree.ofTokens tokens).Fills (wordAfter later)) :
    let graph := ofSemanticGraph (.ofTree (.ofTokens tokens) tokens memory)
    ∃ edge ∈ graph.edges, edge.relation = "conj" ∧
      Labels graph.nodes edge.source (wordBefore earlier) ∧
        Labels graph.nodes edge.target (wordAfter later) := by
  intro graph
  rcases (exists_any?_nodesOf_iff memory).mpr before with ⟨source, sourceFound⟩
  rcases (exists_any?_nodesOf_iff memory).mpr after with ⟨target, targetFound⟩
  have edge_mem : ⟨source, target, "conj", 0.75⟩ ∈ graph.edges ∧ "conj" = "conj" := by
    apply mem_edges_conj_iff.mpr
    exact ⟨rfl, rfl, earlier, token, later, joins, sourceFound, targetFound⟩
  exact ⟨_, edge_mem.1, rfl, labels_of_any? sourceFound, labels_of_any? targetFound⟩

/-- The edges of conjunctions in the graph of a text are those between the words beside them, as far
as these fill slots, where a missing word is represented by its stand-in. If the first token is no
conjunction or no slot says the stand-in before it, and likewise at the end, each of these edges joins
the two neighbours of a conjunction. -/
theorem conjunctions_join (text : String) (dictionary : String → Option (Entry R))
    (memory : ContextMemory R) :
    let tokens := Tagging.ofText text dictionary
    let tree := ParseTree.ofTokens tokens
    let graph := ofSemanticGraph (.ofTree tree tokens memory)
    let index := LabelIndex.ofNodes graph.nodes
    (∀ edge, edge ∈ graph.edges ∧ edge.relation = "conj" ↔
      edge.relation = "conj" ∧ edge.confidence = 0.75 ∧
        ∃ earlier token later, Token.Joins token tokens earlier later ∧
          index.any? (wordBefore earlier) = some edge.source ∧
            index.any? (wordAfter later) = some edge.target) ∧
    (∀ word, (∃ id, index.any? word = some id) ↔ tree.Fills word) ∧
    ((∀ token later, Token.Joins token tokens [] later → ¬tree.Fills startWord) →
      (∀ token earlier, Token.Joins token tokens earlier [] → ¬tree.Fills endWord) →
      ∀ edge ∈ graph.edges, edge.relation = "conj" →
        ∃ earlier left token right later,
          Token.Joins token tokens (earlier ++ [left]) (right :: later) ∧
            Labels graph.nodes edge.source left.word ∧
            Labels graph.nodes edge.target right.word) := by
  intro tokens tree graph index
  refine ⟨fun edge => mem_edges_conj_iff, fun word => exists_any?_nodesOf_iff memory, ?_⟩
  intro noStart noEnd edge edge_mem relation
  rcases mem_edges_conj_iff.mp ⟨edge_mem, relation⟩ with
    ⟨_, _, earlier, token, later, joins, headFound, dependentFound⟩
  rcases List.eq_nil_or_concat earlier with rfl | ⟨earlier, left, rfl⟩
  · have filled := (exists_any?_nodesOf_iff memory).mp ⟨_, headFound⟩
    exact absurd filled (noStart token later joins)
  · cases later with
    | nil =>
        have filled := (exists_any?_nodesOf_iff memory).mp ⟨_, dependentFound⟩
        exact absurd filled (noEnd token _ joins)
    | cons right later =>
        rw [List.concat_eq_append] at joins headFound
        rw [wordBefore_concat] at headFound
        rw [wordAfter_cons] at dependentFound
        exact ⟨earlier, left, token, right, later, joins, labels_of_any? headFound,
          labels_of_any? dependentFound⟩

theorem conjunctions_join_neighbours :
    let tokens := Tagging.ofText "cats or dogs" (fun _ => none : String → Option (Entry Float))
    let graph := ofSemanticGraph (.ofTree (.ofTokens tokens) tokens (.empty .default))
    ∃ edge ∈ graph.edges, edge.relation = "conj" ∧
      ∃ earlier left token right later,
        Token.Joins token tokens (earlier ++ [left]) (right :: later) ∧
          Labels graph.nodes edge.source left.word ∧
            Labels graph.nodes edge.target right.word := by
  intro tokens graph
  have joins : Token.Joins tokens[1] tokens [tokens[0]] [tokens[2]] := ⟨rfl, by decide⟩
  have filled : (ParseTree.ofTokens tokens).Fills (wordBefore [tokens[0]]) ∧
      (ParseTree.ofTokens tokens).Fills (wordAfter [tokens[2]]) := by
    unfold ParseTree.Fills
    decide
  have unfilled : ¬(ParseTree.ofTokens tokens).Fills startWord ∧
      ¬(ParseTree.ofTokens tokens).Fills endWord := by
    unfold ParseTree.Fills
    decide
  rcases exists_edge_of_joins joins (.empty .default) filled.1 filled.2 with
    ⟨edge, edge_mem, relation, _, _⟩
  refine ⟨edge, edge_mem, relation, ?_⟩
  exact (conjunctions_join "cats or dogs" (fun _ => none : String → Option (Entry Float))
    (.empty .default)).2.2 (fun _ _ _ => unfilled.1) (fun _ _ _ => unfilled.2) edge edge_mem relation

/-- A conjunction at the front leaves an edge from the word that its stand-in is taken for, although
no conjunction comes after a word. -/
theorem stand_in_joined :
    let tokens :=
      Tagging.ofText "and dogs chased ROOT" (fun _ => none : String → Option (Entry Float))
    let graph := ofSemanticGraph (.ofTree (.ofTokens tokens) tokens (.empty .default))
    (∃ edge ∈ graph.edges, edge.relation = "conj" ∧ Labels graph.nodes edge.source "ROOT" ∧
      Labels graph.nodes edge.target "dogs") ∧
    ∀ earlier left token later, ¬Token.Joins token tokens (earlier ++ [left]) later := by
  intro tokens graph
  constructor
  · have joins : Token.Joins tokens[0] tokens [] tokens.tail := ⟨rfl, by decide⟩
    have next : wordAfter tokens.tail = "dogs" := by decide
    have filled : (ParseTree.ofTokens tokens).Fills "ROOT" ∧
        (ParseTree.ofTokens tokens).Fills "dogs" := by
      unfold ParseTree.Fills
      decide
    rw [← next] at filled ⊢
    exact exists_edge_of_joins joins (.empty .default) filled.1 filled.2
  · intro earlier left token later joins
    have others : ∀ token ∈ tokens.tail, token.isTagged (· == .conjunction) = false := by decide
    exact Bool.false_ne_true ((others token joins.mem_tail).symm.trans joins.2)

end KnowledgeGraph

end SentenceGraph
