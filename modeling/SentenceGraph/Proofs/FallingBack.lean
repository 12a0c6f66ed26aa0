import SentenceGraph.Proofs.Comparing

/-!
# Falling back on the function words

A word that the dictionary gives no entry for is looked up among the function words, as it is
without the dictionary. So its token is the same in both cases, and where this goes for every word
of a sentence, compiling it with the dictionary and without come to the same, except that documents
name the dictionary that they were made with.

No token depends on anything but its word and the reply to that word.
-/

namespace SentenceGraph

open Fallible

variable {R : Type} [Quantity R]

/-- Replies without an entry. -/
inductive Reply.Unanswered : Reply R → Prop where
  | unreachable (reason : String) : Unanswered (.unreachable reason)
  | refused {status : Int} (body : Body R) (other : status ≠ 200) :
      Unanswered (.answered status body)
  | garbled {body : Body R} (invalid : body.value? = none) : Unanswered (.answered 200 body)
  | malformed {body : Body R} {payload : Value R} {failure : LookupFailure}
      (valid : body.value? = some payload)
      (fails : Entry.ofPayload payload = .error (.lookupFailed failure)) :
      Unanswered (.answered 200 body)

theorem Reply.Unanswered.exists_failure {reply : Reply R} (unanswered : reply.Unanswered) :
    ∃ failure, reply.entry = .error (.lookupFailed failure) := by
  cases unanswered with
  | unreachable reason => exact ⟨.unreachable reason, rfl⟩
  | @refused status body other =>
      refine ⟨.status status, ?_⟩
      simp [entry, other]
  | garbled invalid =>
      refine ⟨.invalidBody, ?_⟩
      simp [entry, invalid]
  | @malformed body payload failure valid fails =>
      refine ⟨failure, ?_⟩
      simp [entry, valid, fails]

namespace Resolver

variable {resolver other : Resolver R} {word : String}

def reply (resolver : Resolver R) (word : String) : Reply R :=
  resolver.service (resolver.requestPath word)

theorem lookup_of_offline (offline : resolver.offline = true) (word : String) :
    resolver.lookup word = .ok (Entry.ofFunctionWord? word) := by
  rw [lookup, if_pos offline]

theorem lookup_of_unanswered (unanswered : (resolver.reply word).Unanswered) :
    resolver.lookup word = .ok (Entry.ofFunctionWord? word) := by
  rcases unanswered.exists_failure with ⟨failure, failed⟩
  rw [reply] at failed
  rw [lookup, failed]
  split
  · rfl
  · rfl

/-- Looking a word up takes only the word and the reply to it. -/
theorem lookup_congr (mode : other.offline = resolver.offline)
    (replies : other.reply word = resolver.reply word) :
    other.lookup word = resolver.lookup word := by
  rw [reply, reply] at replies
  rw [lookup, lookup, mode, replies]

end Resolver

def Value.withMember (value : Value R) (key : String) (replacement : Value R) : Value R :=
  match value with
  | .object members =>
      .object (members.map fun member => if member.1 = key then (key, replacement) else member)
  | other => other

/-- A document that names another dictionary. -/
def Document.withDictionary (document : Document R) (label : String) : Document R :=
  document.map fun member =>
    if member.1 = "metadata" then
      ("metadata", member.2.withMember "dictionary_api" (.text label))
    else member

def Rendered.withDictionary (rendered : Rendered R) (label : String) : Rendered R where
  format := rendered.format
  document := rendered.document.withDictionary label
  text := Document.render (rendered.document.withDictionary label) rendered.format

/-- Two compilations that come to the same, except that the document of the second one names some
dictionary. -/
structure Compilation.Matches (compilation other : Compilation R) (label : String) : Prop where
  success : other.success = compilation.success
  error : other.error = compilation.error
  results : ∀ id, id ≠ "output" → other.results.lookup id = compilation.results.lookup id
  output : other.output = compilation.output.map fun rendered => rendered.withDictionary label

/-- Two calls that leave the same session, and end in the same fault or in answers that match. -/
structure Call.Matches (call other : Call R) (label : String) : Prop where
  session : other.session = call.session
  answer :
    (∃ fault, call.answer = .error fault ∧ other.answer = .error fault) ∨
      ∃ compilation otherCompilation, call.answer = .ok compilation ∧
        other.answer = .ok otherCompilation ∧ compilation.Matches otherCompilation label

theorem Call.Agrees.matches {call other : Call R} {label : String}
    (agrees : call.Agrees other fun rendered => rendered.withDictionary label) :
    call.Matches other label := by
  refine ⟨agrees.session, ?_⟩
  rcases agrees.answer with faulty | ⟨compilation, otherCompilation, answer, otherAnswer, same⟩
  · exact Or.inl faulty
  · refine Or.inr ⟨compilation, otherCompilation, answer, otherAnswer, ?_⟩
    exact ⟨same.success, same.error, same.results, same.output⟩

/-- The tokens among the results of a compilation. -/
def Compilation.tokens? (compilation : Compilation R) : Option (List (Token R)) :=
  match (compilation.results.lookup "lexical").bind PhaseResult.data with
  | some (.tokens tokens) => some tokens
  | _ => none

namespace Reading

variable {memory : ContextMemory R}

theorem rendered_withDictionary (reading : Reading memory) (request : Request)
    (surroundings : Surroundings R) (label : String) (elapsed : Int) :
    reading.rendered request { surroundings with dictionary := label } elapsed =
      (reading.rendered request surroundings elapsed).withDictionary label := by
  have document :
      (reading.report request { surroundings with dictionary := label } elapsed).document =
        (reading.report request surroundings elapsed).document.withDictionary label := by
    simp [report, Report.document, Report.metadata, Document.withDictionary, Value.withMember]
  rw [rendered, rendered, document, Rendered.withDictionary]

theorem lookup_through {reading : Reading memory} {last : PhaseResult (Artifact R)} {id : String}
    (notOutput : id ≠ "output") :
    (Run.through StandardPhase.scheduled (reading.results ++ [last])).results.lookup id =
      (StandardPhase.pipeline.zip reading.results).lookup id := by
  have atEnd : (Run.through StandardPhase.scheduled (reading.results ++ [last])).results =
      StandardPhase.pipeline.zip reading.results ++ [("output", last)] := rfl
  have elsewhere : (id == "output") = false := beq_false_of_ne notOutput
  rw [atEnd, List.lookup_append, List.lookup_cons, elsewhere]
  simp

end Reading

namespace Compiler

/-- A compiler that leaves its service alone. -/
def takenOffline (compiler : Compiler R) : Compiler R :=
  { compiler with config := { compiler.config with offline := true } }

variable {compiler other : Compiler R} {request : Request} {session : Session R} {clock : Clock R}
  {text : String} {tokens : List (Token R)}

section Tokens

theorem tokens_of_lookups
    (found : ∀ word ∈ Text.words text,
      compiler.resolver.lookup word = .ok (Entry.ofFunctionWord? word)) :
    compiler.tokens text =
      .ok (Tagging.tokens (Text.words text) ((Text.words text).map Entry.ofFunctionWord?)) := by
  have resolved : compiler.resolver.resolve (Text.words text) =
      .ok ((Text.words text).map Entry.ofFunctionWord?) := by
    apply mapM_eq_ok_iff.mpr
    simpa only [List.forall₂_map_right_iff, List.forall₂_same] using found
  simp [Compiler.tokens, resolved]

theorem tokens_takenOffline (compiler : Compiler R) (text : String) :
    compiler.takenOffline.tokens text =
      .ok (Tagging.tokens (Text.words text) ((Text.words text).map Entry.ofFunctionWord?)) := by
  apply tokens_of_lookups
  intro word _
  exact Resolver.lookup_of_offline rfl word

theorem tokens_of_unanswered
    (unanswered : ∀ word ∈ Text.words text, (compiler.resolver.reply word).Unanswered) :
    compiler.tokens text = compiler.takenOffline.tokens text := by
  rw [tokens_takenOffline]
  apply tokens_of_lookups
  intro word word_mem
  exact Resolver.lookup_of_unanswered (unanswered word word_mem)

/-- The token of a word without an entry is the one that it has without the service. -/
theorem exists_token_of_unanswered {index : Nat} {word : String}
    (read : compiler.tokens text = .ok tokens) {offlineTokens : List (Token R)}
    (offline : compiler.takenOffline.tokens text = .ok offlineTokens)
    (here : (Text.words text)[index]? = some word)
    (unanswered : (compiler.resolver.reply word).Unanswered) :
    ∃ token, tokens[index]? = some token ∧ offlineTokens[index]? = some token := by
  rcases exists_token_of_word read here with ⟨entry, found, token⟩
  rcases exists_token_of_word offline here with ⟨offlineEntry, offlineFound, offlineToken⟩
  rw [Resolver.lookup_of_unanswered unanswered] at found
  rw [Resolver.lookup_of_offline rfl] at offlineFound
  cases found
  cases offlineFound
  exact ⟨_, token, offlineToken⟩

/-- Equal words with equal replies have the same token, but for its place. -/
theorem exists_token_of_replies {index otherIndex : Nat} {word otherText : String}
    {otherTokens : List (Token R)} (read : compiler.tokens text = .ok tokens)
    (otherRead : other.tokens otherText = .ok otherTokens)
    (mode : other.config.offline = compiler.config.offline)
    (here : (Text.words text)[index]? = some word)
    (there : (Text.words otherText)[otherIndex]? = some word)
    (replies : other.resolver.reply word = compiler.resolver.reply word) :
    ∃ token, tokens[index]? = some token ∧
      otherTokens[otherIndex]? = some { token with index := (otherIndex : Int) } := by
  rcases exists_token_of_word read here with ⟨entry, found, token⟩
  rcases exists_token_of_word otherRead there with ⟨otherEntry, otherFound, otherToken⟩
  rw [Resolver.lookup_congr mode replies, found] at otherFound
  cases otherFound
  exact ⟨_, token, otherToken⟩

theorem tokens?_of_answer (standard : compiler.registry = StandardPhase.all)
    {compilation : Compilation R}
    (answered : (compiler.compile request session clock).answer = .ok compilation) :
    compilation.tokens? = (compiler.tokens request.text).toOption := by
  have runs := runs_runPipeline standard request session clock
  generalize ran : compiler.runPipeline request session clock = piped at runs
  cases runs with
  | unresolved unresolved =>
      rw [Compilation.tokens?, (eq_of_answer ran answered).1, unresolved]
      rfl
  | untimed read | completed read =>
      rw [Compilation.tokens?, (eq_of_answer ran answered).1, read]
      rfl

end Tokens

section Calls

/-- Where no word has an entry, the service makes no difference but to the name of the dictionary. -/
theorem matches_takenOffline (standard : compiler.registry = StandardPhase.all)
    (unanswered : ∀ word ∈ Text.words request.text, (compiler.resolver.reply word).Unanswered) :
    (compiler.compile request session clock).Matches
      (compiler.takenOffline.compile request session clock) "fallback" := by
  have sameTokens := tokens_of_unanswered unanswered
  have tokensOffline := tokens_takenOffline compiler request.text
  have sameElapsed : (compiler.takenOffline.surroundings session clock).elapsed =
      (compiler.surroundings session clock).elapsed := rfl
  have standardOffline : compiler.takenOffline.registry = StandardPhase.all := standard
  have runs := runs_runPipeline standard request session clock
  have offlineRuns := runs_runPipeline standardOffline request session clock
  generalize ran : compiler.runPipeline request session clock = piped at runs
  generalize offlineRan : compiler.takenOffline.runPipeline request session clock = offlinePiped
    at offlineRuns
  -- The tokens and the time are the same in both runs, so that they end in the same way.
  cases runs with
  | unresolved unresolved =>
      rw [sameTokens, tokensOffline] at unresolved
      contradiction
  | @untimed reading fault read untimed =>
      cases offlineRuns with
      | unresolved unresolved => cases tokensOffline.symm.trans unresolved
      | @untimed other otherFault otherRead otherUntimed =>
          have same := read.symm.trans (sameTokens.trans otherRead)
          cases Reading.eq_of_tokens (Except.ok.inj same)
          cases untimed.symm.trans (sameElapsed.symm.trans otherUntimed)
          exact (agrees_of_failure ran offlineRan _).matches
      | completed _ timed => cases untimed.symm.trans (sameElapsed.symm.trans timed)
  | @completed reading elapsed rendered read timed output =>
      cases offlineRuns with
      | unresolved unresolved => cases tokensOffline.symm.trans unresolved
      | untimed _ untimed => cases timed.symm.trans (sameElapsed.symm.trans untimed)
      | @completed other otherElapsed otherRendered otherRead otherTimed otherOutput =>
          have same := read.symm.trans (sameTokens.trans otherRead)
          cases Reading.eq_of_tokens (Except.ok.inj same)
          cases timed.symm.trans (sameElapsed.symm.trans otherTimed)
          have relabelled : otherRendered = rendered.withDictionary "fallback" := by
            rw [← output, ← otherOutput, ← Reading.rendered_withDictionary]
            rfl
          subst relabelled
          apply Call.Agrees.matches
          apply agrees_of_success _ ran offlineRan rfl rfl rfl
          intro id notOutput
          rw [Reading.lookup_through notOutput, Reading.lookup_through notOutput]

end Calls

/-- Where no word of a text has an entry, a compilation comes to what it comes to without the
service, for any session and any clock; only the name of the dictionary in the document may differ.
Whatever the replies to other words are, a word without an entry has the token that it has without
the service, and a token takes only the word and the reply to that word, and its place. -/
theorem compile_falls_back (compiler : Compiler R) (request : Request) (session : Session R)
    (clock : Clock R) (standard : compiler.registry = StandardPhase.all) :
    ((∀ word ∈ Text.words request.text, (compiler.resolver.reply word).Unanswered) →
      (compiler.compile request session clock).Matches
        (compiler.takenOffline.compile request session clock) "fallback") ∧
    (∀ tokens, compiler.tokens request.text = .ok tokens →
      ∃ offlineTokens, compiler.takenOffline.tokens request.text = .ok offlineTokens ∧
        ∀ (index : Nat) (word : String), (Text.words request.text)[index]? = some word →
          (compiler.resolver.reply word).Unanswered →
            ∃ token, tokens[index]? = some token ∧ offlineTokens[index]? = some token) ∧
    (∀ (other : Compiler R) (otherText : String) (tokens otherTokens : List (Token R)),
      compiler.tokens request.text = .ok tokens → other.tokens otherText = .ok otherTokens →
      other.config.offline = compiler.config.offline →
        ∀ (index otherIndex : Nat) (word : String),
          (Text.words request.text)[index]? = some word →
          (Text.words otherText)[otherIndex]? = some word →
          other.resolver.reply word = compiler.resolver.reply word →
            ∃ token, tokens[index]? = some token ∧
              otherTokens[otherIndex]? = some { token with index := (otherIndex : Int) }) ∧
    ∀ compilation, (compiler.compile request session clock).answer = .ok compilation →
      compilation.tokens? = (compiler.tokens request.text).toOption := by
  refine ⟨matches_takenOffline standard, ?_, ?_, fun _ => tokens?_of_answer standard⟩
  · intro tokens read
    refine ⟨_, tokens_takenOffline compiler request.text, ?_⟩
    intro index word here unanswered
    exact exists_token_of_unanswered read (tokens_takenOffline compiler request.text) here
      unanswered
  · intro other otherText tokens otherTokens read otherRead mode index otherIndex word here there
      replies
    exact exists_token_of_replies read otherRead mode here there replies

/-- A compiler of a dictionary that is out of reach for one word and has no entry for any other. -/
def patchy : Compiler ℚ where
  config := { lookupTimeout := 5, memorySize := 1 }
  service := Service.ofTable [("dogs", .unreachable "timed out")]
  registry := StandardPhase.all

theorem compile_falls_back_patchy :
    (∀ word ∈ Text.words "Dogs run", (patchy.resolver.reply word).Unanswered) ∧
      (patchy.compile { text := "Dogs run" } (.fresh .default) ⟨0, 0, 1, 0, ""⟩).Matches
        (patchy.takenOffline.compile { text := "Dogs run" } (.fresh .default) ⟨0, 0, 1, 0, ""⟩)
          "fallback" := by
  have words : Text.words "Dogs run" = ["Dogs", "run"] := by decide +kernel
  have unanswered : ∀ word ∈ Text.words "Dogs run",
      (patchy.resolver.reply word).Unanswered := by
    have paths : patchy.resolver.requestPath "Dogs" = "/api/v2/entries/en/dogs" ∧
        patchy.resolver.requestPath "run" = "/api/v2/entries/en/run" := by decide +kernel
    have dogs : patchy.resolver.reply "Dogs" = .unreachable "timed out" := by
      rw [Resolver.reply, paths.1]
      rfl
    have run : patchy.resolver.reply "run" = .notFound := by
      rw [Resolver.reply, paths.2]
      rfl
    rw [words]
    intro word word_mem
    simp only [List.mem_cons, List.not_mem_nil, or_false] at word_mem
    rcases word_mem with rfl | rfl
    · rw [dogs]
      exact .unreachable "timed out"
    · rw [run]
      exact .refused (.octets []) (by decide)
  refine ⟨unanswered, ?_⟩
  exact (compile_falls_back patchy { text := "Dogs run" } (.fresh .default) ⟨0, 0, 1, 0, ""⟩
    rfl).1 unanswered

end Compiler

end SentenceGraph
