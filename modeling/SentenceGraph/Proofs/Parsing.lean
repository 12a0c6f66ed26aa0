import SentenceGraph.ParseTree

/-!
# What parse trees are made of

The slots of a clause are tokens of the sentence, each of a part of speech that can fill the slot.
The dependencies of a sentence are those that its tokens start, and a token starts one by its own
part of speech, the word before it and the tokens after it.

Clauses are read by putting one token after the other into the clause at hand. The invariant
`DrawnFrom` says where the slots of a clause come from, and one more token keeps it.
-/

namespace SentenceGraph

variable {R : Type} {tokens : List (Token R)} {token : Token R} {choice : PartOfSpeech → Bool}

theorem Token.isTagged_iff :
    token.isTagged choice = true ↔ ∃ part, token.partOfSpeech? = some part ∧ choice part = true :=
  Option.any_eq_true _ _

theorem Token.isTagged_eq_iff {part : PartOfSpeech} :
    token.isTagged (· == part) = true ↔ token.partOfSpeech? = some part := by
  simp [Token.isTagged_iff]

/-- A token of two classes has a part of speech that both of them have. -/
theorem Token.exists_common {other : PartOfSpeech → Bool} (tagged : token.isTagged choice = true)
    (otherwise : token.isTagged other = true) : ∃ part, choice part = true ∧ other part = true := by
  rcases isTagged_iff.mp tagged with ⟨part, isPart, chosen⟩
  rcases isTagged_iff.mp otherwise with ⟨second, isSecond, secondChosen⟩
  cases isPart.symm.trans isSecond
  exact ⟨part, chosen, secondChosen⟩

theorem Token.not_verbal_of_nominal (nominal : token.isTagged PartOfSpeech.isNominal = true) :
    ¬token.isTagged PartOfSpeech.isVerbal = true := by
  intro verbal
  rcases exists_common nominal verbal with ⟨part, isNominal, isVerbal⟩
  cases part <;> contradiction

/-- A slot is filled by a token of a class. -/
def Slot.IsOf (slot : Slot R) (tokens : List (Token R)) (choice : PartOfSpeech → Bool) : Prop :=
  ∃ token ∈ tokens, token.isTagged choice = true ∧ slot = .ofToken token

namespace Clause

variable {clause : Clause R}

structure DrawnFrom (clause : Clause R) (tokens : List (Token R)) : Prop where
  subject : ∀ slot ∈ clause.subject, slot.IsOf tokens PartOfSpeech.isNominal
  predicate : ∀ slot ∈ clause.predicate, slot.IsOf tokens PartOfSpeech.isVerbal
  objects : ∀ slot ∈ clause.objects, slot.IsOf tokens (· == .noun)
  modifiers : ∀ slot ∈ clause.modifiers, slot.IsOf tokens PartOfSpeech.isModifier
  complements : clause.complements = []

theorem drawnFrom_empty (tokens : List (Token R)) : ({} : Clause R).DrawnFrom tokens := by
  constructor <;> simp

theorem DrawnFrom.place (drawn : clause.DrawnFrom tokens) (token_mem : token ∈ tokens) :
    (clause.place token).DrawnFrom tokens := by
  unfold Clause.place
  split
  · rename_i fills
    rw [Bool.and_eq_true] at fills
    refine { drawn with subject := ?_ }
    intro slot slot_mem
    cases Option.some.inj slot_mem
    exact ⟨token, token_mem, fills.1, rfl⟩
  · split
    · rename_i verbal
      split
      · refine { drawn with predicate := ?_ }
        intro slot slot_mem
        cases Option.some.inj slot_mem
        exact ⟨token, token_mem, verbal, rfl⟩
      · exact drawn
    · split
      · rename_i fills
        rw [Bool.and_eq_true] at fills
        refine { drawn with objects := ?_ }
        intro slot slot_mem
        rcases List.mem_append.mp slot_mem with earlier | last
        · exact drawn.objects slot earlier
        · rw [List.mem_singleton] at last
          exact ⟨token, token_mem, fills.1, last⟩
      · split
        · rename_i modifies
          refine { drawn with modifiers := ?_ }
          intro slot slot_mem
          rcases List.mem_append.mp slot_mem with earlier | last
          · exact drawn.modifiers slot earlier
          · rw [List.mem_singleton] at last
            exact ⟨token, token_mem, modifies, last⟩
        · exact drawn

theorem DrawnFrom.continued {current : Clause R} {rest : List (Token R)}
    (drawn : current.DrawnFrom tokens) (included : ∀ token ∈ rest, token ∈ tokens)
    (clause_mem : clause ∈ Clause.continued current rest) : clause.DrawnFrom tokens := by
  induction rest generalizing current with
  | nil =>
      simp only [Clause.continued, List.mem_singleton] at clause_mem
      exact clause_mem ▸ drawn
  | cons token rest inductionHypothesis =>
      rw [List.forall_mem_cons] at included
      rw [Clause.continued] at clause_mem
      split at clause_mem
      · rcases List.mem_cons.mp clause_mem with rfl | later
        · exact drawn
        · exact inductionHypothesis (drawnFrom_empty tokens) included.2 later
      · apply inductionHypothesis _ included.2 clause_mem
        exact drawn.place included.1

theorem drawnFrom_of_mem_ofTokens (clause_mem : clause ∈ ofTokens tokens) :
    clause.DrawnFrom tokens := by
  apply (drawnFrom_empty tokens).continued _ clause_mem
  intro token token_mem
  exact token_mem

end Clause

namespace Dependency

variable [Quantity R] {before : Option String} {later : List (Token R)} {dependency : Dependency R}

/-- The dependency that a token starts between a word and some tokens, by its part of speech. -/
inductive Starts (before : Option String) (token : Token R) (later : List (Token R)) :
    Dependency R → Prop where
  | subject {verb : Token R} (nominal : token.isTagged PartOfSpeech.isNominal = true)
      (found : nearest PartOfSpeech.isVerbal later = some verb) :
      Starts before token later (subjectOf token.word verb.word)
  | object {noun : Token R} (verb : token.isTagged (· == .verb) = true)
      (found : nearest (· == .noun) later = some noun) :
      Starts before token later (objectOf token.word noun.word)
  | modifier {noun : Token R} (adjective : token.isTagged (· == .adjective) = true)
      (next : later.head? = some noun) (isNoun : noun.isTagged (· == .noun) = true) :
      Starts before token later (modifierOf noun.word token.word)
  | conjunction (joins : token.isTagged (· == .conjunction) = true) :
      Starts before token later
        (conjunctsOf (before.getD startWord) ((later.head?.map Token.word).getD endWord) token.word)

theorem ofToken_eq_some_iff :
    ofToken before token later = some dependency ↔ Starts before token later dependency := by
  constructor
  · intro started
    unfold ofToken at started
    split at started
    case h_1 part | h_2 part | h_3 part =>
      rcases Option.map_eq_some_iff.mp started with ⟨verb, found, rfl⟩
      apply Starts.subject _ found
      exact Token.isTagged_iff.mpr ⟨_, part, rfl⟩
    case h_4 part =>
      rcases Option.map_eq_some_iff.mp started with ⟨noun, found, rfl⟩
      exact .object (Token.isTagged_eq_iff.mpr part) found
    case h_5 part =>
      rcases Option.map_eq_some_iff.mp started with ⟨noun, found, rfl⟩
      rcases Option.filter_eq_some_iff.mp found with ⟨next, isNoun⟩
      exact .modifier (Token.isTagged_eq_iff.mpr part) next isNoun
    case h_6 part =>
      cases started
      exact .conjunction (Token.isTagged_eq_iff.mpr part)
    case h_7 => contradiction
  · intro starts
    cases starts with
    | subject nominal found =>
        rcases Token.isTagged_iff.mp nominal with ⟨part, isPart, chosen⟩
        cases part with
        | noun | pronoun | possessivePronoun => simp [ofToken, isPart, found]
        | _ => contradiction
    | object verb found => simp [ofToken, Token.isTagged_eq_iff.mp verb, found]
    | @modifier noun adjective next isNoun =>
        have found : later.head?.filter (·.isTagged (· == .noun)) = some noun :=
          Option.filter_eq_some_iff.mpr ⟨next, isNoun⟩
        simp [ofToken, Token.isTagged_eq_iff.mp adjective, found]
    | conjunction joins => simp [ofToken, Token.isTagged_eq_iff.mp joins]

omit [Quantity R] in
theorem lastWord_cons {earlier : List (Token R)} :
    ((token :: earlier).getLast?.map Token.word).or before =
      (earlier.getLast?.map Token.word).or (some token.word) := by
  rw [List.getLast?_cons]
  cases earlier.getLast? with
  | none => rfl
  | some neighbour => rfl

/-- The word before a token is that of the token before it. -/
theorem mem_after_iff :
    dependency ∈ after before tokens ↔
      ∃ earlier token later, tokens = earlier ++ token :: later ∧
        Starts ((earlier.getLast?.map Token.word).or before) token later dependency := by
  induction tokens generalizing before with
  | nil => simp [after]
  | cons token rest inductionHypothesis =>
      rw [after, List.mem_append, Option.mem_toList, inductionHypothesis]
      constructor
      · rintro (here | ⟨earlier, other, later, rfl, starts⟩)
        · exact ⟨[], token, rest, rfl, ofToken_eq_some_iff.mp here⟩
        · refine ⟨token :: earlier, other, later, rfl, ?_⟩
          rw [lastWord_cons]
          exact starts
      · rintro ⟨earlier, other, later, split, starts⟩
        rcases List.cons_eq_append_iff.mp split with ⟨rfl, same⟩ | ⟨earlier, rfl, rfl⟩
        · cases same
          exact Or.inl (ofToken_eq_some_iff.mpr starts)
        · refine Or.inr ⟨earlier, other, later, rfl, ?_⟩
          rw [lastWord_cons] at starts
          exact starts

theorem mem_ofTokens_iff :
    dependency ∈ ofTokens tokens ↔
      ∃ earlier token later, tokens = earlier ++ token :: later ∧
        Starts (earlier.getLast?.map Token.word) token later dependency := by
  simp [ofTokens, mem_after_iff]

end Dependency

end SentenceGraph
