import Mathlib.Data.List.Basic
import SentenceGraph.Proofs.Parsing

/-!
# Dependencies by the places of their tokens

A token starts a dependency by its own part of speech and by the places of others: a nominal by the
least place of a verbal behind it, a verb by the least place of a noun behind it, an adjective by the
place next to it, and a conjunction by the places on both sides. The dependencies of a sentence are
listed by the places that start them, and no place starts two.

The nearest verbal and the nearest noun behind a place are known to whoever comes from the end of the
sentence. So one pass from the last token to the first, which carries these two, finds the same list;
that it does is shown for every end of a sentence.
-/

namespace SentenceGraph

variable {R : Type} {tokens earlier later : List (Token R)} {token : Token R}
  {choice : PartOfSpeech → Bool}

/-- The token at a later place is the first one of a class behind a place. -/
structure Token.NearestAt (tokens : List (Token R)) (choice : PartOfSpeech → Bool)
    (place later : Nat) (token : Token R) : Prop where
  behind : place < later
  found : tokens[later]? = some token
  tagged : token.isTagged choice = true
  least : ∀ between other, place < between → between < later → tokens[between]? = some other →
    other.isTagged choice = false

namespace Dependency

variable {dependency : Dependency R} {place : Nat}

theorem nearest_drop_iff :
    nearest choice (tokens.drop (place + 1)) = some token ↔
      ∃ later, Token.NearestAt tokens choice place later token := by
  rw [nearest, List.find?_eq_some_iff_getElem]
  constructor
  · rintro ⟨tagged, offset, inside, same, least⟩
    refine ⟨place + 1 + offset, ?_, ?_, tagged, ?_⟩
    · omega
    · rw [← List.getElem?_drop, List.getElem?_eq_getElem inside, same]
    · intro between other behind before found
      have offset_lt : between - (place + 1) < offset := by omega
      have same : tokens[place + 1 + (between - (place + 1))]? = some other := by
        rw [Nat.add_sub_cancel' behind]
        exact found
      rw [← List.getElem?_drop, List.getElem?_eq_some_iff] at same
      rcases same with ⟨_, same⟩
      simpa [same] using least (between - (place + 1)) offset_lt
  · rintro ⟨later, behind, found, tagged, least⟩
    have split : place + 1 + (later - (place + 1)) = later := Nat.add_sub_cancel' behind
    have same : (tokens.drop (place + 1))[later - (place + 1)]? = some token := by
      rw [List.getElem?_drop, split]
      exact found
    rcases List.getElem?_eq_some_iff.mp same with ⟨inside, same⟩
    refine ⟨tagged, later - (place + 1), inside, same, ?_⟩
    intro offset before
    have passed : tokens[place + 1 + offset]? = some (tokens.drop (place + 1))[offset] := by
      rw [← List.getElem?_drop, List.getElem?_eq_getElem]
    rw [least (place + 1 + offset) _ (by omega) (by omega) passed]
    rfl

variable [Quantity R]

/-- The dependency that the token at a place starts, by the places of the tokens that it looks at. -/
inductive StartsAt (tokens : List (Token R)) (place : Nat) : Dependency R → Prop where
  | subject {nominal verb : Token R} {later : Nat} (here : tokens[place]? = some nominal)
      (tagged : nominal.isTagged PartOfSpeech.isNominal = true)
      (nearest : Token.NearestAt tokens PartOfSpeech.isVerbal place later verb) :
      StartsAt tokens place (subjectOf nominal.word verb.word)
  | object {verb noun : Token R} {later : Nat} (here : tokens[place]? = some verb)
      (tagged : verb.isTagged (· == .verb) = true)
      (nearest : Token.NearestAt tokens (· == .noun) place later noun) :
      StartsAt tokens place (objectOf verb.word noun.word)
  | modifier {adjective noun : Token R} (here : tokens[place]? = some adjective)
      (tagged : adjective.isTagged (· == .adjective) = true)
      (next : tokens[place + 1]? = some noun) (isNoun : noun.isTagged (· == .noun) = true) :
      StartsAt tokens place (modifierOf noun.word adjective.word)
  | conjunction {word : Token R} (here : tokens[place]? = some word)
      (tagged : word.isTagged (· == .conjunction) = true) :
      StartsAt tokens place
        (conjunctsOf (((tokens.take place).getLast?.map Token.word).getD startWord)
          ((tokens[place + 1]?.map Token.word).getD endWord) word.word)

theorem startsAt_iff :
    StartsAt tokens place dependency ↔
      ∃ token, tokens[place]? = some token ∧
        Starts ((tokens.take place).getLast?.map Token.word) token (tokens.drop (place + 1))
          dependency := by
  have next : (tokens.drop (place + 1)).head? = tokens[place + 1]? := List.head?_drop
  constructor
  · intro starts
    cases starts with
    | subject here tagged nearest =>
        exact ⟨_, here, .subject tagged (nearest_drop_iff.mpr ⟨_, nearest⟩)⟩
    | object here tagged nearest =>
        exact ⟨_, here, .object tagged (nearest_drop_iff.mpr ⟨_, nearest⟩)⟩
    | modifier here tagged found isNoun =>
        exact ⟨_, here, .modifier tagged (next.trans found) isNoun⟩
    | conjunction here tagged =>
        rw [← next]
        exact ⟨_, here, .conjunction tagged⟩
  · rintro ⟨token, here, starts⟩
    cases starts with
    | subject tagged found =>
        rcases nearest_drop_iff.mp found with ⟨later, nearest⟩
        exact .subject here tagged nearest
    | object tagged found =>
        rcases nearest_drop_iff.mp found with ⟨later, nearest⟩
        exact .object here tagged nearest
    | modifier tagged found isNoun => exact .modifier here tagged (next.symm.trans found) isNoun
    | conjunction tagged =>
        rw [next]
        exact .conjunction here tagged

/-- The dependency that the token at a place starts, if it starts one. -/
def startedAt? (tokens : List (Token R)) (place : Nat) : Option (Dependency R) := do
  let token ← tokens[place]?
  ofToken ((tokens.take place).getLast?.map Token.word) token (tokens.drop (place + 1))

theorem startedAt?_eq_some_iff :
    startedAt? tokens place = some dependency ↔ StartsAt tokens place dependency := by
  rw [startsAt_iff, startedAt?, Option.bind_eq_bind, Option.bind_eq_some_iff]
  simp only [ofToken_eq_some_iff]

theorem startedAt?_length :
    startedAt? (earlier ++ token :: later) earlier.length =
      ofToken (earlier.getLast?.map Token.word) token later := by
  simp [startedAt?]

/-- The end of a sentence starts the dependencies that its places start. -/
theorem after_eq_filterMap (earlier later : List (Token R)) :
    after (earlier.getLast?.map Token.word) later =
      (List.range' earlier.length later.length).filterMap (startedAt? (earlier ++ later)) := by
  induction later generalizing earlier with
  | nil => rfl
  | cons token later inductionHypothesis =>
      have rest := inductionHypothesis (earlier ++ [token])
      rw [List.getLast?_concat, List.length_append, List.length_singleton, List.append_assoc,
        List.singleton_append] at rest
      rw [after, List.length_cons, List.range'_succ, List.filterMap_cons, startedAt?_length]
      change _ ++ after ((some token).map Token.word) later = _
      rw [rest]
      cases ofToken (earlier.getLast?.map Token.word) token later with
      | none => rfl
      | some dependency => rfl

theorem ofTokens_eq_filterMap (tokens : List (Token R)) :
    ofTokens tokens = (List.range tokens.length).filterMap (startedAt? tokens) := by
  rw [List.range_eq_range']
  exact after_eq_filterMap [] tokens

theorem length_ofTokens_le (tokens : List (Token R)) :
    (ofTokens tokens).length ≤ tokens.length := by
  rw [ofTokens_eq_filterMap]
  simpa using List.length_filterMap_le (startedAt? tokens) (List.range tokens.length)

theorem StartsAt.unique {other : Dependency R} (starts : StartsAt tokens place dependency)
    (otherwise : StartsAt tokens place other) : dependency = other := by
  rw [← startedAt?_eq_some_iff] at starts otherwise
  exact Option.some.inj (starts.symm.trans otherwise)

/-- The dependencies of a sentence, each with the place of the token that starts it. -/
def placed (tokens : List (Token R)) : List (Nat × Dependency R) :=
  (List.range tokens.length).filterMap fun place => (startedAt? tokens place).map (place, ·)

theorem mem_placed_iff : (place, dependency) ∈ placed tokens ↔ StartsAt tokens place dependency := by
  rw [placed, List.mem_filterMap, ← startedAt?_eq_some_iff]
  constructor
  · rintro ⟨other, _, same⟩
    rcases Option.map_eq_some_iff.mp same with ⟨started, found, same⟩
    cases same
    exact found
  · intro found
    refine ⟨place, ?_, by simp [found]⟩
    rw [startedAt?, Option.bind_eq_bind, Option.bind_eq_some_iff] at found
    rcases found with ⟨token, here, _⟩
    rw [List.mem_range]
    exact (List.getElem?_eq_some_iff.mp here).1

theorem map_snd_placed : (placed tokens).map Prod.snd = ofTokens tokens := by
  rw [ofTokens_eq_filterMap, placed, List.map_filterMap]
  simp [Function.comp_def]

theorem pairwise_map_fst_placed : ((placed tokens).map Prod.fst).Pairwise (· < ·) := by
  rw [placed, List.map_filterMap, List.pairwise_filterMap]
  apply List.pairwise_lt_range.imp
  intro first second before
  simp_all

/-- What a pass from the end of a sentence knows at a place. -/
structure Sweep (R : Type) where
  verbal : Option (Token R) := none
  noun : Option (Token R) := none
  found : List (Dependency R) := []

/-- The dependency of a token, given its neighbours and what the pass carries. -/
def Sweep.link (sweep : Sweep R) (before : Option String) (token : Token R)
    (next : Option (Token R)) : Option (Dependency R) :=
  if token.isTagged PartOfSpeech.isNominal then
    sweep.verbal.map fun verb => subjectOf token.word verb.word
  else if token.isTagged (· == .verb) then
    sweep.noun.map fun noun => objectOf token.word noun.word
  else if token.isTagged (· == .adjective) then
    (next.filter (·.isTagged (· == .noun))).map fun noun => modifierOf noun.word token.word
  else if token.isTagged (· == .conjunction) then
    some (conjunctsOf (before.getD startWord) ((next.map Token.word).getD endWord) token.word)
  else none

/-- Takes the token at a place of a sentence into the pass. -/
def Sweep.step (tokens : List (Token R)) : Token R × Nat → Sweep R → Sweep R
  | (token, place), sweep =>
      { verbal := if token.isTagged PartOfSpeech.isVerbal then some token else sweep.verbal
        noun := if token.isTagged (· == .noun) then some token else sweep.noun
        found :=
          (sweep.link ((tokens.take place).getLast?.map Token.word) token
            tokens[place + 1]?).toList ++ sweep.found }

/-- A pass over a sentence from its last token to the first. -/
def sweep (tokens : List (Token R)) : Sweep R :=
  tokens.zipIdx.foldr (Sweep.step tokens) {}

theorem link_eq_ofToken (before : Option String) (token : Token R) (later : List (Token R))
    (found : List (Dependency R)) :
    Sweep.link ⟨nearest PartOfSpeech.isVerbal later, nearest (· == .noun) later, found⟩ before token
      later.head? = ofToken before token later := by
  unfold Sweep.link ofToken Token.isTagged
  cases token.partOfSpeech? with
  | none => simp
  | some part => cases part <;> simp [PartOfSpeech.isNominal]

omit [Quantity R] in
theorem nearest_cons :
    nearest choice (token :: later) =
      if token.isTagged choice then some token else nearest choice later := by
  rw [nearest, List.find?_cons]
  cases token.isTagged choice with
  | true => rfl
  | false => rfl

/-- Over the end of a sentence, the pass knows the nearest verbal, the nearest noun and all
dependencies of that end. -/
theorem foldr_step (earlier later : List (Token R)) :
    (later.zipIdx earlier.length).foldr (Sweep.step (earlier ++ later)) {} =
      ⟨nearest PartOfSpeech.isVerbal later, nearest (· == .noun) later,
        after (earlier.getLast?.map Token.word) later⟩ := by
  induction later generalizing earlier with
  | nil => rfl
  | cons token later inductionHypothesis =>
      have rest := inductionHypothesis (earlier ++ [token])
      rw [List.getLast?_concat, List.length_append, List.length_singleton, List.append_assoc,
        List.singleton_append] at rest
      have before : (earlier ++ token :: later).take earlier.length = earlier := List.take_left
      have next : (earlier ++ token :: later)[earlier.length + 1]? = later.head? := by
        simp [List.getElem?_append_right, List.head?_eq_getElem?]
      rw [List.zipIdx_cons, List.foldr_cons, rest, Sweep.step, before, next, link_eq_ofToken,
        ← nearest_cons, ← nearest_cons]
      rfl

theorem found_sweep (tokens : List (Token R)) : (sweep tokens).found = ofTokens tokens :=
  congrArg Sweep.found (foldr_step [] tokens)

/-- The dependencies of a sentence are those that its places start, in the order of these places. No
place starts two dependencies, so that there are never more of them than tokens. A pass from the end
of the sentence that carries the nearest verbal and the nearest noun finds the same list. -/
theorem ofTokens_lists_startsAt (tokens : List (Token R)) :
    (∃ places : List Nat, places.Pairwise (· < ·) ∧ places.length = (ofTokens tokens).length ∧
        ∀ place dependency,
          (place, dependency) ∈ places.zip (ofTokens tokens) ↔ StartsAt tokens place dependency) ∧
      (∀ place dependency other,
        StartsAt tokens place dependency → StartsAt tokens place other → dependency = other) ∧
      (ofTokens tokens).length ≤ tokens.length ∧
      (sweep tokens).found = ofTokens tokens := by
  have pairs : ((placed tokens).map Prod.fst).zip (ofTokens tokens) = placed tokens := by
    rw [← map_snd_placed]
    exact (List.zip_of_prod rfl rfl).symm
  refine ⟨⟨(placed tokens).map Prod.fst, pairwise_map_fst_placed, ?_, ?_⟩, ?_,
    length_ofTokens_le tokens, found_sweep tokens⟩
  · rw [← map_snd_placed, List.length_map, List.length_map]
  · intro place dependency
    rw [pairs]
    exact mem_placed_iff
  · intro place dependency other
    exact StartsAt.unique

end Dependency

end SentenceGraph
