import SentenceGraph.Proofs.Completing
import SentenceGraph.Proofs.Typing

/-!
# What pronouns stand for

A pronoun stands for the subject of the last sentence before it that was compiled in its session,
whatever failed since, and for nothing known if that sentence had no subject. The session holds that
subject as the newest entry of its memory: it is entered when a compilation has succeeded, after its
own pronouns were resolved, and a memory that has room for one sentence never drops the newest one.

The induction is on the calls so far, from their end. What it carries is `Session.Recalls`.
-/

namespace SentenceGraph

open Fallible

variable {R : Type} [Quantity R]

section Words

theorem Text.ne_nil_of_mem_runsFrom {current characters run : List Char}
    (run_mem : run ∈ Text.runsFrom current characters) : run ≠ [] := by
  induction characters generalizing current with
  | nil =>
      simp only [Text.runsFrom] at run_mem
      split at run_mem
      · contradiction
      · simp_all
  | cons character rest inductionHypothesis =>
      simp only [Text.runsFrom] at run_mem
      split at run_mem
      · exact inductionHypothesis run_mem
      · split at run_mem
        · exact inductionHypothesis run_mem
        · rcases List.mem_cons.mp run_mem with rfl | later
          · simp_all
          · exact inductionHypothesis later

theorem Text.ne_empty_of_mem_words {text word : String} (word_mem : word ∈ Text.words text) :
    word ≠ "" := by
  rcases List.mem_map.mp word_mem with ⟨run, run_mem, rfl⟩
  have notNil := Text.ne_nil_of_mem_runsFrom run_mem
  rintro empty
  apply notNil
  simpa using congrArg String.toList empty

end Words

/-- The parse tree among the results of a compilation. -/
def Compilation.tree? (compilation : Compilation R) : Option (ParseTree R) :=
  match (compilation.results.lookup "syntax").bind PhaseResult.data with
  | some (.tree tree) => some tree
  | _ => none

def Call.graph? (call : Call R) : Option (SemanticGraph R) :=
  match call.answer with
  | .ok compilation => if compilation.success then compilation.graph? else none
  | .error _ => none

/-- The subject of the last one of some calls that succeeded, if it had one. -/
def latestSubject? (calls : List (Call R)) : Option String :=
  (calls.filterMap Call.graph?).getLast?.bind SemanticGraph.mainSubject?

omit [Quantity R] in
/-- The subject of a clause, if it is a pronoun that refers to someone or something. -/
def Clause.pronoun? (clause : Clause R) : Option String :=
  (clause.subject.map Slot.word).filter fun word =>
    ["he", "she", "it", "they", "him", "her", "them"].contains (Text.lowercase word)

/-- The reference of a pronoun to a subject, or to nothing known. -/
def Reference.to (pronoun : String) : Option String → Reference R
  | some subject => ⟨pronoun, .text subject, 0.7⟩
  | none => ⟨pronoun, .text "unknown", 0.3⟩

namespace SemanticGraph

theorem references_ofTree (tree : ParseTree R) (tokens : List (Token R))
    (memory : ContextMemory R) :
    (ofTree tree tokens memory).references =
      (tree.clauses.filterMap Clause.pronoun?).map fun word => Reference.resolve word memory := by
  have each : ∀ clause : Clause R, clauseReference? memory clause =
      clause.pronoun?.map fun word => Reference.resolve word memory := by
    intro clause
    have listed : clause.pronoun? = (clause.subject.map Slot.word).filter fun word =>
        Reference.pronouns.contains (Text.lowercase word) := rfl
    rw [listed]
    cases hasSubject : clause.subject with
    | none => simp [clauseReference?, hasSubject]
    | some slot =>
        by_cases refers : Reference.pronouns.contains (Text.lowercase slot.word) = true
        · simp only [clauseReference?, hasSubject, Option.bind_eq_bind, Option.bind_some,
            Option.map_some, Option.filter_some, if_pos refers]
          rfl
        · simp only [clauseReference?, hasSubject, Option.bind_eq_bind, Option.bind_some,
            Option.map_some, Option.filter_some, if_neg refers]
          rfl
  rw [List.map_filterMap]
  apply List.filterMap_congr
  intro clause _
  exact each clause

omit [Quantity R] in
theorem mem_names_of_mainSubject? {graph : SemanticGraph R} {name : String}
    (subject : graph.mainSubject? = some name) : name ∈ graph.names := by
  rcases Option.map_eq_some_iff.mp subject with ⟨entity, found, rfl⟩
  exact List.mem_map_of_mem (List.mem_of_find?_eq_some found)

end SemanticGraph

/-- The subject of a sentence is a word, and no word is empty. -/
theorem Compiler.mainSubject?_ne_empty {compiler : Compiler R} {text : String}
    {memory : ContextMemory R} {reading : Reading memory}
    (read : compiler.tokens text = .ok reading.tokens) : reading.graph.mainSubject? ≠ some "" := by
  intro empty
  have named : "" ∈ reading.graph.names := SemanticGraph.mem_names_of_mainSubject? empty
  rcases KnowledgeGraph.exists_nominal_of_mem_names named with ⟨token, token_mem, unwritten, _⟩
  rcases List.getElem?_of_mem token_mem with ⟨index, place⟩
  rcases exists_word_of_token read place with ⟨word, entry, hasWord, _, rfl⟩
  exact Text.ne_empty_of_mem_words (List.mem_of_getElem? hasWord) unwritten

namespace Compiler

variable {compiler : Compiler R} {request : Request} {session : Session R} {clock : Clock R}

theorem graph?_of_unresolved {fault : Fault} (standard : compiler.registry = StandardPhase.all)
    (unresolved : compiler.tokens request.text = .error fault) :
    (compiler.compile request session clock).graph? = none := by
  rw [Call.graph?]
  split
  · rename_i compilation answered
    have runs := runs_runPipeline standard request session clock
    generalize ran : compiler.runPipeline request session clock = piped at runs
    cases runs with
    | unresolved => simp [(eq_of_answer ran answered).2.1]
    | untimed read | completed read => cases unresolved.symm.trans read
  · rfl

theorem graph?_of_tokens {tokens : List (Token R)} {compilation : Compilation R}
    (standard : compiler.registry = StandardPhase.all)
    (read : compiler.tokens request.text = .ok tokens)
    (answered : (compiler.compile request session clock).answer = .ok compilation)
    (success : compilation.success = true) :
    compilation.tree? = some (.ofTokens tokens) ∧
      (compiler.compile request session clock).graph? =
        some (.ofTree (.ofTokens tokens) tokens session.memory) := by
  rcases succeeded_of_answer standard answered success with
    ⟨reading, rendered, _, found, _, results, _, ended⟩
  cases read.symm.trans found
  constructor
  · rw [Compilation.tree?, results]
    rfl
  · simp only [Call.graph?, answered, success, ended.semantics]
    rfl

end Compiler

/-- A session after some calls: at most so many compilations are counted, and the newest entry of
the memory, which has room for one, tells the subject of the last successful call. -/
structure Session.Recalls (session : Session R) (calls : List (Call R)) : Prop where
  totals : ∃ count meanTime successRate,
    session.analytics = .counted count meanTime successRate ∧ count ≤ calls.length
  room : 0 < session.memory.capacity.size
  newest : session.memory.last?.map ContextEntry.subject =
    (calls.filterMap Call.graph?).getLast?.map fun graph => .ofText? graph.mainSubject?
  named : ∀ graph ∈ calls.filterMap Call.graph?, graph.mainSubject? ≠ some ""

section Memory

omit [Quantity R]

/-- A memory with room for an entry never drops the newest one. -/
theorem ContextMemory.last?_append {memory : ContextMemory R} (room : 0 < memory.capacity.size)
    (entry : ContextEntry R) : (memory.append entry).last? = some entry := by
  rw [last?, append, ofEntries, lastItems, List.getLast?_drop, List.getLast?_concat, if_neg]
  simp only [List.length_append, List.length_singleton]
  omega

end Memory

namespace Session.Recalls

variable {session : Session R} {calls : List (Call R)} {attempt : Attempt R}
  {compilation : Compilation R} {graph : SemanticGraph R}

theorem fresh {capacity : Capacity} (room : 0 < capacity.size) :
    (Session.fresh capacity : Session R).Recalls [] where
  totals := ⟨0, _, _, rfl, le_rfl⟩
  room := room
  newest := by simp [Session.fresh, ContextMemory.empty, ContextMemory.ofEntries,
    ContextMemory.last?, lastItems]
  named := by simp

/-- In such a session, a pronoun is resolved to the subject of the last successful call. -/
theorem resolve (recalls : session.Recalls calls) (word : String) :
    Reference.resolve word session.memory = .to word (latestSubject? calls) := by
  have newest := recalls.newest
  cases latest : (calls.filterMap Call.graph?).getLast? with
  | none =>
      rw [latest, Option.map_none, Option.map_eq_none_iff] at newest
      simp only [Reference.resolve, newest, latestSubject?, latest, Option.bind_none]
      rfl
  | some graph =>
      have named := recalls.named graph (List.mem_of_getLast? latest)
      rw [latest, Option.map_some, Option.map_eq_some_iff] at newest
      rcases newest with ⟨entry, last, subject⟩
      simp only [Reference.resolve, last, latestSubject?, latest, Option.bind_some, subject]
      cases main : graph.mainSubject? with
      | none => rfl
      | some name =>
          have isGiven : name ≠ "" := fun empty => named (empty ▸ main)
          simp [Value.ofText?, Value.isGiven, isGiven, Reference.to]

omit [Quantity R] in
theorem unanswered {next : Session R} {call : Call R} (recalls : session.Recalls calls)
    (memory : next.memory = session.memory) (unread : call.graph? = none)
    (totals : ∃ count meanTime successRate,
      next.analytics = .counted count meanTime successRate ∧ count ≤ calls.length + 1) :
    next.Recalls (calls ++ [call]) := by
  have same : (calls ++ [call]).filterMap Call.graph? = calls.filterMap Call.graph? := by
    simp [unread]
  constructor
  · simpa using totals
  · rw [memory]
    exact recalls.room
  · rw [memory, same]
    exact recalls.newest
  · rw [same]
    exact recalls.named

theorem succeeded {reading : Reading session.memory} (recalls : session.Recalls calls)
    (read : attempt.compiler.tokens attempt.request.text = .ok reading.tokens)
    (ended : (session.call attempt).Succeeded session attempt.clock compilation reading.graph) :
    (session.call attempt).session.Recalls (calls ++ [session.call attempt]) := by
  have found : (session.call attempt).graph? = some reading.graph := by
    simp [Call.graph?, ended.answer, ended.success, ended.semantics]
  have more : (calls ++ [session.call attempt]).filterMap Call.graph? =
      calls.filterMap Call.graph? ++ [reading.graph] := by
    simp [found]
  rcases recalls.totals with ⟨count, meanTime, successRate, counted, bound⟩
  have recorded := ended.totals
  rw [counted] at recorded
  rcases Analytics.eq_counted_of_record recorded with ⟨nextTime, nextRate, same⟩
  rcases ended.memory with ⟨time, _, memory⟩
  constructor
  · refine ⟨count + 1, nextTime, nextRate, same, ?_⟩
    rw [List.length_append, List.length_singleton]
    exact Nat.succ_le_succ bound
  · rw [memory]
    exact recalls.room
  · rw [memory, ContextMemory.last?_append recalls.room, more, List.getLast?_concat]
    rfl
  · rw [more]
    intro graph graph_mem
    rcases List.mem_append.mp graph_mem with earlier | latest
    · exact recalls.named graph earlier
    · rw [List.mem_singleton.mp latest]
      exact Compiler.mainSubject?_ne_empty read

/-- Every call of the standard phases leads on to such a session. -/
theorem call (recalls : session.Recalls calls)
    (standard : attempt.compiler.registry = StandardPhase.all)
    (counts : Quantity.Counts R (calls.length + 1)) :
    (session.call attempt).session.Recalls (calls ++ [session.call attempt]) := by
  rcases recalls.totals with ⟨count, meanTime, successRate, counted, bound⟩
  -- Only a successful call touches the memory; a fault in place of an answer leaves all as it was.
  cases answered : (session.call attempt).answer with
  | error fault =>
      have inRange : Quantity.Counts R (count + 1) := by
        intro other small
        exact counts other (by omega)
      have same : (session.call attempt).session = session :=
        Compiler.session_of_unanswered standard counted inRange answered
      apply recalls.unanswered
      · rw [same]
      · simp [Call.graph?, answered]
      · rw [same]
        exact ⟨count, meanTime, successRate, counted, by omega⟩
  | ok compilation =>
      cases success : compilation.success with
      | false =>
          have ended : (session.call attempt).Failed session attempt.clock compilation :=
            Compiler.failed_of_answer answered success
          have recorded := ended.totals
          rw [counted] at recorded
          rcases Analytics.eq_counted_of_record recorded with ⟨nextTime, nextRate, next⟩
          apply recalls.unanswered ended.memory
          · simp [Call.graph?, answered, success]
          · exact ⟨count + 1, nextTime, nextRate, next, by omega⟩
      | true =>
          rcases Compiler.succeeded_of_answer standard answered success with
            ⟨reading, _, _, read, _, _, _, ended⟩
          exact recalls.succeeded read ended

end Session.Recalls

namespace Session

variable {starter : Compiler R} {session : Session R} {attempts : List (Attempt R)}

theorem recalls_after (made : starter.newSession = .ok session)
    (standard : ∀ attempt ∈ attempts, attempt.compiler.registry = StandardPhase.all)
    (counts : Quantity.Counts R attempts.length) :
    (session.after attempts).Recalls (session.calls attempts) := by
  induction attempts using List.reverseRecOn with
  | nil =>
      rcases bind_eq_ok_iff.mp made with ⟨capacity, sized, same⟩
      rcases Capacity.ofInt_eq_ok_iff.mp sized with ⟨positive, _, rfl⟩
      cases same
      apply Recalls.fresh
      simp only [Capacity.size]
      omega
  | append_singleton earlier attempt inductionHypothesis =>
      rw [List.length_append, List.length_singleton] at counts
      have before := inductionHypothesis
        (fun other other_mem => standard other (by simp [other_mem]))
        (fun count small => counts count (by omega))
      rw [after_append, calls_append]
      apply before.call (standard attempt (by simp))
      rw [length_calls]
      exact counts

theorem calls_take (session : Session R) (attempts : List (Attempt R)) (index : Nat) :
    session.calls (attempts.take index) = (session.calls attempts).take index := by
  induction attempts generalizing session index with
  | nil => simp [calls]
  | cons attempt rest inductionHypothesis =>
      cases index with
      | zero => rfl
      | succ index =>
          rw [List.take_succ_cons, calls, inductionHypothesis]
          rfl

/-- In a session that started without history, and as long as its calls can be counted, the
references of a successful call are those of the pronouns that are subjects of its clauses, each to
the subject of the last successful call before it. Calls that failed and the own subjects of the
sentence do not matter. -/
theorem references_eq_latestSubject (made : starter.newSession = .ok session)
    (standard : ∀ attempt ∈ attempts, attempt.compiler.registry = StandardPhase.all)
    (counts : Quantity.Counts R attempts.length) :
    ∀ (index : Nat) (call : Call R) (compilation : Compilation R),
      (session.calls attempts)[index]? = some call → call.answer = .ok compilation →
      compilation.success = true →
        ∃ tree graph, compilation.tree? = some tree ∧ call.graph? = some graph ∧
          graph.references = (tree.clauses.filterMap Clause.pronoun?).map fun word =>
            .to word (latestSubject? ((session.calls attempts).take index)) := by
  intro index call compilation here answered success
  rw [getElem?_calls, Option.map_eq_some_iff] at here
  rcases here with ⟨attempt, attempted, rfl⟩
  have standardBefore : ∀ other ∈ attempts.take index,
      other.compiler.registry = StandardPhase.all := by
    intro other other_mem
    exact standard other (List.mem_of_mem_take other_mem)
  have recalls := recalls_after made standardBefore
    (fun count small => counts count (small.trans (List.length_take_le' index attempts)))
  have standardHere := standard attempt (List.mem_of_getElem? attempted)
  rcases Compiler.succeeded_of_answer standardHere answered success with ⟨reading, _, _, read, _⟩
  rcases Compiler.graph?_of_tokens standardHere read answered success with ⟨tree, graph⟩
  refine ⟨_, _, tree, graph, ?_⟩
  rw [SemanticGraph.references_ofTree, ← calls_take]
  apply List.map_congr_left
  intro word _
  exact recalls.resolve word

section Retold

/-- A sentence with a subject. -/
def told : Attempt ℚ := ⟨forgetful, { text := "Mark runs" }, ⟨0, 0, 1, 0, ""⟩⟩

/-- A sentence for which the dictionary breaks down. -/
def untold : Attempt ℚ :=
  ⟨{ forgetful with service := fun _ => .crashed "torn" }, { text := "cats sleep" },
    ⟨0, 0, 2, 0, ""⟩⟩

/-- A sentence about someone. -/
def retold : Attempt ℚ := ⟨forgetful, { text := "he sleeps" }, ⟨0, 0, 1, 0, ""⟩⟩

theorem latestSubject?_told :
    latestSubject? ((Session.fresh (.count 1)).calls [told, untold]) = some "Mark" := by
  have readSubject : (told.compiler.tokens told.request.text).toOption.bind (fun tokens =>
      (SemanticGraph.ofTree (.ofTokens tokens) tokens (.empty (.count 1))).mainSubject?) =
        some "Mark" := by decide +kernel
  rcases Option.bind_eq_some_iff.mp readSubject with ⟨tokens, resolved, subject⟩
  have read := toOption_eq_some_iff.mp resolved
  have counted : (Session.fresh (.count 1) : Session ℚ).analytics = .counted 0 0.0 100.0 := rfl
  rcases exists_milliseconds 0 with ⟨time, dated⟩
  rcases Compiler.exists_success told.request told.clock rfl counted
    (Quantity.counts_exact _) dated rfl read with ⟨compilation, answer, success, _⟩
  have first : ((Session.fresh (.count 1)).call told).graph? =
      some (.ofTree (.ofTokens tokens) tokens (.empty (.count 1))) :=
    (Compiler.graph?_of_tokens rfl read answer success).2
  have second : (((Session.fresh (.count 1)).call told).session.call untold).graph? = none :=
    Compiler.graph?_of_unresolved rfl rfl
  simp [latestSubject?, calls, first, second, subject]

theorem references_eq_latestSubject_retold :
    forgetful.newSession = .ok (.fresh (.count 1)) ∧
      ∃ call graph, ((Session.fresh (.count 1)).calls [told, untold, retold])[2]? = some call ∧
        call.graph? = some graph ∧ graph.references = [⟨"he", .text "Mark", 0.7⟩] := by
  have made : forgetful.newSession = .ok (.fresh (.count 1)) := rfl
  have standard : ∀ attempt ∈ [told, untold, retold],
      attempt.compiler.registry = StandardPhase.all := by
    simp [told, untold, retold, forgetful]
  have standardBefore : ∀ attempt ∈ [told, untold],
      attempt.compiler.registry = StandardPhase.all := by
    simp [told, untold, forgetful]
  rcases (recalls_after made standardBefore (Quantity.counts_exact _)).totals with
    ⟨count, meanTime, successRate, counted, _⟩
  have readPronouns : (retold.compiler.tokens retold.request.text).toOption.map (fun tokens =>
      (ParseTree.ofTokens tokens).clauses.filterMap Clause.pronoun?) = some ["he"] := by
    decide +kernel
  rcases Option.map_eq_some_iff.mp readPronouns with ⟨tokens, resolved, pronouns⟩
  have read := toOption_eq_some_iff.mp resolved
  rcases exists_milliseconds 0 with ⟨time, dated⟩
  rcases Compiler.exists_success retold.request retold.clock rfl counted
    (Quantity.counts_exact _) dated rfl read with ⟨compilation, answer, success, _⟩
  rcases references_eq_latestSubject made standard (Quantity.counts_exact _) 2
    (((Session.fresh (.count 1)).after [told, untold]).call retold) compilation rfl answer success
    with ⟨tree, graph, parsed, found, references⟩
  have same := parsed.symm.trans (Compiler.graph?_of_tokens rfl read answer success).1
  have before : latestSubject? (((Session.fresh (.count 1)).calls [told, untold, retold]).take 2) =
      some "Mark" := latestSubject?_told
  rw [Option.some.inj same, pronouns, before] at references
  exact ⟨made, _, graph, rfl, found, references⟩

end Retold

end Session

end SentenceGraph
