import SentenceGraph.Proofs.LookingUp

/-!
# What an entry keeps of a payload

A payload whose meanings are objects either gives an entry or is a failed lookup. The entry has
every meaning of the payload, in order, and of each meaning the first definitions and the first
synonyms up to a limit. What lies beyond the limits is not looked at, nor is anything behind the
first item of the payload: payloads that differ only there give the same entry, or fail in the same
way.
-/

namespace SentenceGraph

open Fallible

variable {R : Type}

namespace Value

/-- The first elements of a value that can be run through, as a value of the same shape. -/
def start (count : Nat) : Value R → Value R
  | .list items => .list (items.take count)
  | .text content => .text (String.ofList (content.toList.take count))
  | .object members => .object (members.take count)
  | other => other

theorem elements?_start (count : Nat) (value : Value R) :
    (value.start count).elements? = value.elements?.map (·.take count) := by
  cases value with
  | list | text | object => simp [start, elements?, List.map_take]
  | null | bool | int | real => rfl

theorem getD_map_start {count : Nat} {absent : Value R} (plain : absent.start count = absent)
    (found : Option (Value R)) :
    (found.map (start count)).getD absent = (found.getD absent).start count := by
  cases found with
  | none => exact plain.symm
  | some value => rfl

variable [Quantity R]

theorem isGiven_start {count : Nat} (positive : 0 < count) (value : Value R) :
    (value.start count).isGiven = value.isGiven := by
  rcases Nat.exists_eq_add_one.mpr positive with ⟨count, rfl⟩
  cases value with
  | list items => cases items <;> rfl
  | object members => cases members <;> rfl
  | text content =>
      rw [Bool.eq_iff_iff]
      simp [start, isGiven]
  | null | bool | int | real => rfl

theorem elements?_of_not_given {value : Value R} (nothing : value.isGiven = false) :
    value.elements?.getD [] = [] := by
  cases value with
  | list items => simpa [isGiven, elements?] using nothing
  | object members => simpa [isGiven, elements?] using nothing
  | text content =>
      obtain rfl : content = "" := by simpa [isGiven] using nothing
      rfl
  | null | bool | int | real => rfl

end Value

namespace Entry

/-- What a member yields when it is run through. -/
def elementsOf (members : List (String × Value R)) (key : String) : List (Value R) :=
  ((Value.member? members key).bind Value.elements?).getD []

/-- A payload item whose meanings are objects, with these members. -/
def HasMeanings (members : List (String × Value R))
    (meanings : List (List (String × Value R))) : Prop :=
  (Value.member? members "meanings").getD (.list []) = .list (meanings.map .object)

/-- Meanings that differ only where an entry does not look. -/
structure MeaningsAlike (members others : List (String × Value R)) : Prop where
  partOfSpeech : Value.member? members "partOfSpeech" = Value.member? others "partOfSpeech"
  definitions :
    (Value.member? members "definitions").map (Value.start keptDefinitions) =
      (Value.member? others "definitions").map (Value.start keptDefinitions)
  synonyms :
    (Value.member? members "synonyms").map (Value.start keptSynonyms) =
      (Value.member? others "synonyms").map (Value.start keptSynonyms)

/-- Payload items that differ only where an entry does not look. -/
structure Alike (members others : List (String × Value R)) : Prop where
  texts : ∀ key ∈ ["word", "phonetic", "origin"],
    Value.member? members key = Value.member? others key
  meanings : ∃ some other, HasMeanings members some ∧ HasMeanings others other ∧
    List.Forall₂ MeaningsAlike some other

variable [Quantity R] {members others : List (String × Value R)}

/-- A definition as a payload states it. -/
def States (stated : Value R) (definition : Definition R) : Prop :=
  ∃ members, stated = .object members ∧
    Value.member? members "definition" = some definition.statement ∧
      definition.usage = optionalText members "example"

/-- A meaning with the first definitions and the first synonyms of a meaning of the payload. -/
structure Keeps (members : List (String × Value R)) (meaning : Meaning R) : Prop where
  partOfSpeech : Value.member? members "partOfSpeech" = some meaning.partOfSpeech
  definitions :
    List.Forall₂ States ((elementsOf members "definitions").take keptDefinitions)
      meaning.definitions
  synonyms : meaning.synonyms = (elementsOf members "synonyms").take keptSynonyms

section Kept

omit [Quantity R] in
theorem required_eq_ok {key : String} {value : Value R} (found : required members key = .ok value) :
    Value.member? members key = some value := by
  rw [required] at found
  split at found
  · rename_i member
    cases found
    exact member
  · contradiction

theorem states_of_readDefinition {stated : Value R} {definition : Definition R}
    (read : readDefinition stated = .ok definition) : States stated definition := by
  cases stated with
  | object members =>
      rcases bind_eq_ok_iff.mp read with ⟨statement, found, same⟩
      cases same
      exact ⟨members, rfl, required_eq_ok found, rfl⟩
  | null | bool | int | real | text | list => contradiction

omit [Quantity R] in
theorem firstItems_eq_ok {count : Nat} {value : Value R} {items : List (Value R)}
    (taken : firstItems count value = .ok items) :
    items = (value.elements?.getD []).take count := by
  cases value with
  | list | text =>
      cases taken
      simp [Value.elements?, List.map_take]
  | null | bool | int | real | object => contradiction

theorem readSynonyms_eq_ok {synonyms : List (Value R)}
    (read : readSynonyms members = .ok synonyms) :
    synonyms = (elementsOf members "synonyms").take keptSynonyms := by
  rw [elementsOf]
  cases found : Value.member? members "synonyms" with
  | none =>
      simp only [readSynonyms, found] at read
      cases read
      rfl
  | some value =>
      simp only [readSynonyms, found, Option.getD_some] at read
      rw [Option.bind_some]
      split at read
      · split at read
        · rename_i elements run
          cases read
          rw [run, Option.getD_some]
        · contradiction
      · rename_i nothing
        cases read
        rw [Value.elements?_of_not_given (Bool.eq_false_iff.mpr nothing), List.take_nil]

theorem keeps_of_readMeaning {meaning : Meaning R}
    (read : readMeaning (.object members) = .ok meaning) : Keeps members meaning := by
  rw [readMeaning] at read
  simp only [Value.members?, ok_bind] at read
  rcases bind_eq_ok_iff.mp read with ⟨items, taken, read⟩
  rcases bind_eq_ok_iff.mp read with ⟨definitions, stated, read⟩
  rcases bind_eq_ok_iff.mp read with ⟨partOfSpeech, named, read⟩
  rcases bind_eq_ok_iff.mp read with ⟨synonyms, alike, same⟩
  cases same
  have kept : items = (elementsOf members "definitions").take keptDefinitions := by
    rw [firstItems_eq_ok taken, elementsOf]
    cases Value.member? members "definitions" with
    | none => rfl
    | some value => rfl
  refine ⟨required_eq_ok named, ?_, readSynonyms_eq_ok alike⟩
  rw [← kept]
  exact (mapM_eq_ok_iff.mp stated).imp fun _ _ => states_of_readDefinition

end Kept

section Unseen

omit [Quantity R] in
theorem firstItems_start (count : Nat) (value : Value R) :
    firstItems count (value.start count) = firstItems count value := by
  cases value with
  | list | text => simp [Value.start, firstItems, List.take_take]
  | null | bool | int | real | object => rfl

omit [Quantity R] in
theorem firstItems_congr {count : Nat} {key : String}
    (same : (Value.member? members key).map (Value.start count) =
      (Value.member? others key).map (Value.start count)) :
    firstItems count ((Value.member? members key).getD (.list [])) =
      firstItems count ((Value.member? others key).getD (.list [])) := by
  have starts : ((Value.member? members key).getD (.list [])).start count =
      ((Value.member? others key).getD (.list [])).start count := by
    have nothing : (Value.list [] : Value R).start count = .list [] := by simp [Value.start]
    rw [← Value.getD_map_start nothing, same, Value.getD_map_start nothing]
  rw [← firstItems_start, starts, firstItems_start]

/-- Synonyms are read off the start of what is given. -/
theorem readSynonyms_eq {start : Value R}
    (starts :
      ((Value.member? members "synonyms").map (Value.start keptSynonyms)).getD .null = start) :
    readSynonyms members =
      if start.isGiven then (start.elements?.map Except.ok).getD malformed else .ok [] := by
  subst starts
  rw [Value.getD_map_start rfl, Value.isGiven_start (by decide), Value.elements?_start,
    readSynonyms]
  cases ((Value.member? members "synonyms").getD .null).elements? with
  | none => rfl
  | some synonyms => rfl

theorem readSynonyms_congr
    (same : (Value.member? members "synonyms").map (Value.start keptSynonyms) =
      (Value.member? others "synonyms").map (Value.start keptSynonyms)) :
    readSynonyms members = readSynonyms others := by
  rw [readSynonyms_eq rfl, same, readSynonyms_eq rfl]

theorem readMeaning_congr (alike : MeaningsAlike members others) :
    readMeaning (.object members) = readMeaning (.object others) := by
  simp only [readMeaning, Value.members?, ok_bind, required, firstItems_congr alike.definitions,
    alike.partOfSpeech, readSynonyms_congr alike.synonyms]

theorem mapM_readMeaning_congr {meanings otherMeanings : List (List (String × Value R))}
    (alike : List.Forall₂ MeaningsAlike meanings otherMeanings) :
    (meanings.map Value.object).mapM readMeaning =
      (otherMeanings.map Value.object).mapM readMeaning := by
  induction alike with
  | nil => rfl
  | cons same further inductionHypothesis =>
      simp only [List.map_cons, List.mapM_cons, readMeaning_congr same, inductionHypothesis]

omit [Quantity R] in
theorem meaningsOf?_eq {meanings : List (List (String × Value R))}
    (given : HasMeanings members meanings) :
    meaningsOf? members = some (meanings.map .object) := by
  rw [meaningsOf?, given]
  rfl

theorem ofPayload_congr (alike : Alike members others) (behind otherwise : List (Value R)) :
    ofPayload (.list (.object members :: behind)) =
      ofPayload (.list (.object others :: otherwise)) := by
  rcases alike.meanings with ⟨some, other, given, otherGiven, same⟩
  have texts := alike.texts
  simp only [List.forall_mem_cons] at texts
  rcases texts with ⟨word, phonetic, origin, _⟩
  rw [ofPayload_object members behind _ (meaningsOf?_eq given),
    ofPayload_object others otherwise _ (meaningsOf?_eq otherGiven), mapM_readMeaning_congr same]
  simp only [required, optionalText, word, phonetic, origin]

end Unseen

theorem ofPayload_eq_ok_iff_of_hasMeanings {meanings : List (List (String × Value R))}
    (given : HasMeanings members meanings) (behind : List (Value R)) :
    (∃ entry, ofPayload (.list (.object members :: behind)) = .ok entry) ↔
      (Value.member? members "word").isSome ∧ ∀ meaning ∈ meanings, AreMeaningMembers meaning := by
  rw [ofPayload_eq_ok_iff]
  constructor
  · rintro ⟨_, _, found, same, hasWord, isFound, readable⟩
    cases same
    rw [meaningsOf?_eq given] at isFound
    cases isFound
    refine ⟨hasWord, ?_⟩
    intro meaning meaning_mem
    exact isMeaning_object_iff.mp (readable _ (List.mem_map_of_mem meaning_mem))
  · rintro ⟨hasWord, readable⟩
    refine ⟨members, behind, _, rfl, hasWord, meaningsOf?_eq given, ?_⟩
    rw [List.forall_mem_map]
    intro meaning meaning_mem
    exact isMeaning_object_iff.mpr (readable meaning meaning_mem)

/-- With objects for meanings, a payload cannot stray. -/
theorem ofPayload_cases_of_hasMeanings {meanings : List (List (String × Value R))}
    (given : HasMeanings members meanings) (behind : List (Value R)) :
    (∃ entry, ofPayload (.list (.object members :: behind)) = .ok entry) ∨
      ∃ failure,
        ofPayload (.list (.object members :: behind)) = .error (.lookupFailed failure) := by
  rcases ofPayload_cases (.list (.object members :: behind)) with
    wellFormed | ⟨shape, strays⟩ | fails
  · exact Or.inl (ofPayload_of_wellFormed wellFormed)
  · rcases strays with ⟨_, _, before, stray, after, same, found, _, rfl, noObject⟩
    cases same
    rw [meaningsOf?_eq given] at found
    have stray_mem : stray ∈ meanings.map .object := by
      rw [Option.some.inj found]
      simp
    rcases List.mem_map.mp stray_mem with ⟨meaning, _, rfl⟩
    exact absurd rfl noObject
  · exact Or.inr fails

theorem kept_of_ofPayload {meanings : List (List (String × Value R))} {entry : Entry R}
    (given : HasMeanings members meanings) {behind : List (Value R)}
    (read : ofPayload (.list (.object members :: behind)) = .ok entry) :
    Value.member? members "word" = some entry.word ∧
      entry.phonetic = optionalText members "phonetic" ∧
        entry.origin = optionalText members "origin" ∧
          List.Forall₂ Keeps meanings entry.meanings := by
  rw [ofPayload_object members behind _ (meaningsOf?_eq given)] at read
  rcases bind_eq_ok_iff.mp read with ⟨shown, readAll, read⟩
  rcases bind_eq_ok_iff.mp read with ⟨word, named, same⟩
  cases same
  refine ⟨required_eq_ok named, rfl, rfl, ?_⟩
  have each := List.forall₂_map_left_iff.mp (mapM_eq_ok_iff.mp readAll)
  exact each.imp fun _ _ => keeps_of_readMeaning

/-- A payload that starts with an object, and whose meanings, if there are any, are objects, gives
an entry exactly if there is a word and every meaning can be read: it has a part of speech, its
definitions are missing, an empty text or a list that starts with definitions as far as it is looked
at, and its synonyms are nothing or can be run through. Otherwise the lookup fails. The entry has
all meanings in order, each with the first definitions and the first synonyms. Whatever is beyond
these, or behind the first item, leaves the result as it is, be it an entry or a failure. -/
theorem ofPayload_trims {meanings : List (List (String × Value R))}
    (given : HasMeanings members meanings) (behind : List (Value R)) :
    let payload := Value.list (.object members :: behind)
    ((∃ entry, ofPayload payload = .ok entry) ↔
        (Value.member? members "word").isSome ∧ ∀ meaning ∈ meanings, AreMeaningMembers meaning) ∧
      ((∃ entry, ofPayload payload = .ok entry) ∨
        ∃ failure, ofPayload payload = .error (.lookupFailed failure)) ∧
      (∀ entry, ofPayload payload = .ok entry →
        Value.member? members "word" = some entry.word ∧
          entry.phonetic = optionalText members "phonetic" ∧
            entry.origin = optionalText members "origin" ∧
              List.Forall₂ Keeps meanings entry.meanings) ∧
      ∀ others otherwise, Alike members others →
        ofPayload (.list (.object others :: otherwise)) = ofPayload payload := by
  refine ⟨ofPayload_eq_ok_iff_of_hasMeanings given behind,
    ofPayload_cases_of_hasMeanings given behind, fun entry => kept_of_ofPayload given, ?_⟩
  intro others otherwise alike
  exact (ofPayload_congr alike behind otherwise).symm

/-- The third definition of a meaning may be anything, and so may a second item. -/
theorem ofPayload_trims_cat :
    let definition : Value Float := .object [("definition", .text "a pet")]
    let meaning :=
      [("partOfSpeech", .text "noun"), ("definitions", .list [definition, definition, .null])]
    let members := [("word", .text "cat"), ("meanings", .list [.object meaning])]
    HasMeanings members [meaning] ∧ ∃ entry,
      ofPayload (.list [.object members, .null]) = .ok entry ∧
        List.Forall₂ Keeps [meaning] entry.meanings := by
  intro definition meaning members
  have given : HasMeanings members [meaning] := rfl
  exact ⟨given, _, rfl, ((ofPayload_trims given [.null]).2.2.1 _ rfl).2.2.2⟩

end Entry

end SentenceGraph
