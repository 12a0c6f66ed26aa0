import SentenceGraph.Dictionary.Resolver
import SentenceGraph.Proofs.Fallible

/-!
# Which replies give entries

A reply gives an entry exactly if its payload is well formed, and nearly every other reply fails the
lookup, so that the function words are the fallback. The exception is a payload that is read up to a
meaning that is no object (`Strays`): its fault is no failed lookup, and ends the looking up of all
words. Apart from these, and from services that break down, all words get their entries.

A reading that either succeeds or is a failed lookup, depending on a condition, is a `Reads`; such
readings can be put one after the other.
-/

namespace SentenceGraph

open Fallible

/-- A reading that succeeds under a condition, and is a failed lookup otherwise. -/
inductive Reads {Result : Type} (condition : Prop) : Except Fault Result → Prop where
  | succeeds (holds : condition) (result : Result) : Reads condition (.ok result)
  | fails (violated : ¬ condition) (failure : LookupFailure) :
      Reads condition (.error (.lookupFailed failure))

namespace Reads

variable {Item Result Final : Type} {condition further : Prop} {reading : Except Fault Result}

theorem of_iff (reads : Reads condition reading) (same : condition ↔ further) :
    Reads further reading := by
  rwa [← propext same]

theorem ok_iff (reads : Reads condition reading) :
    (∃ result, reading = .ok result) ↔ condition := by
  cases reads with
  | succeeds holds result => simp [holds]
  | fails violated failure => simp [violated]

theorem exists_failure (reads : Reads condition reading) (violated : ¬ condition) :
    ∃ failure, reading = .error (.lookupFailed failure) := by
  cases reads with
  | succeeds holds => contradiction
  | fails _ failure => exact ⟨failure, rfl⟩

/-- A reading after another one. -/
theorem bind {next : Result → Except Fault Final} (first : Reads condition reading)
    (second : ∀ result, reading = .ok result → Reads further (next result)) :
    Reads (condition ∧ further) (reading >>= next) := by
  cases first with
  | succeeds holds result => exact (second result rfl).of_iff (by simp [holds])
  | fails violated failure => exact .fails (fun both => violated both.1) failure

/-- A reading whose result is only put into another form. -/
theorem map {image : Result → Final} (first : Reads condition reading) :
    Reads condition (reading >>= fun result => pure (image result)) := by
  cases first with
  | succeeds holds result => exact .succeeds holds (image result)
  | fails violated failure => exact .fails violated failure

theorem mapM {step : Item → Except Fault Result} {conditions : Item → Prop} {items : List Item}
    (each : ∀ item ∈ items, Reads (conditions item) (step item)) :
    Reads (∀ item ∈ items, conditions item) (items.mapM step) := by
  induction items with
  | nil => exact .succeeds (by simp) []
  | cons item items inductionHypothesis =>
      have others := inductionHypothesis fun other other_mem =>
        each other (List.mem_cons_of_mem _ other_mem)
      rw [List.mapM_cons]
      refine ((each item (by simp)).bind fun _ _ => others.map).of_iff ?_
      rw [List.forall_mem_cons]

end Reads

variable {R : Type} [Quantity R]

namespace Entry

/-- An object that states a definition. -/
def IsDefinition (value : Value R) : Prop :=
  ∃ members, value = .object members ∧ (Value.member? members "definition").isSome

/-- Definitions that can be shown: a list that starts with definitions, as far as it is looked at,
or an empty text. -/
def AreDefinitions : Value R → Prop
  | .list items => ∀ item ∈ items.take keptDefinitions, IsDefinition item
  | .text content => content = ""
  | _ => False

/-- The members of a meaning that can be read: definitions if there are any, a part of speech, and
synonyms that can be run through if any are given. -/
structure AreMeaningMembers (members : List (String × Value R)) : Prop where
  definitions : ∀ value, Value.member? members "definitions" = some value → AreDefinitions value
  partOfSpeech : (Value.member? members "partOfSpeech").isSome
  synonyms :
    ∀ value, Value.member? members "synonyms" = some value → value.isGiven = true →
      value.elements?.isSome

/-- A meaning that can be read. -/
def IsMeaning (value : Value R) : Prop :=
  ∃ members, value = .object members ∧ AreMeaningMembers members

/-- The meanings of an entry, if they can be run through. -/
def meaningsOf? (members : List (String × Value R)) : Option (List (Value R)) :=
  ((Value.member? members "meanings").getD (.list [])).elements?

/-- A payload that is an entry: a list that starts with an object, with a word and with meanings
that can all be read. -/
def WellFormed (payload : Value R) : Prop :=
  ∃ members others meanings, payload = .list (.object members :: others) ∧
    (Value.member? members "word").isSome ∧ meaningsOf? members = some meanings ∧
      ∀ meaning ∈ meanings, IsMeaning meaning

/-- A payload of which meanings can be read up to one that is no object, but a value of this
shape. -/
def Strays (payload : Value R) (shape : Shape) : Prop :=
  ∃ members others before stray after, payload = .list (.object members :: others) ∧
    meaningsOf? members = some (before ++ stray :: after) ∧
      (∀ meaning ∈ before, IsMeaning meaning) ∧ stray.shape = shape ∧ shape ≠ .mapping

omit [Quantity R] in
theorem required_reads (members : List (String × Value R)) (key : String) :
    Reads (Value.member? members key).isSome (required members key) := by
  rw [required]
  cases Value.member? members key with
  | none => exact .fails (by simp) _
  | some value => exact .succeeds (by simp) value

theorem readDefinition_reads (value : Value R) :
    Reads (IsDefinition value) (readDefinition value) := by
  cases value with
  | object members =>
      exact (required_reads members "definition").map.of_iff (by simp [IsDefinition])
  | null | bool | int | real | text | list => exact .fails (by simp [IsDefinition]) _

theorem firstItems_reads (value : Value R) :
    Reads (AreDefinitions value)
      (firstItems keptDefinitions value >>= fun given => given.mapM readDefinition) := by
  cases value with
  | list items => exact Reads.mapM fun item _ => readDefinition_reads item
  | text content =>
      cases spelled : content.toList with
      | nil =>
          have empty : content = "" := by simpa using spelled
          subst empty
          exact .succeeds rfl []
      | cons first rest =>
          have notEmpty : content ≠ "" := by
            rintro rfl
            contradiction
          simp only [firstItems, spelled]
          exact .fails notEmpty _
  | null | bool | int | real | object => exact .fails (by simp [AreDefinitions]) _

theorem readSynonyms_reads (members : List (String × Value R)) :
    Reads (∀ value, Value.member? members "synonyms" = some value → value.isGiven = true →
      value.elements?.isSome) (readSynonyms members) := by
  rw [readSynonyms]
  cases Value.member? members "synonyms" with
  | none => exact .succeeds (by simp) []
  | some value =>
      simp only [Option.getD_some, Option.some.injEq, forall_eq']
      split
      · rename_i given
        cases value.elements? with
        | none => exact .fails (by simp [given]) _
        | some synonyms => exact .succeeds (by simp) _
      · rename_i notGiven
        exact .succeeds (by simp [notGiven]) []

theorem readMeaning_reads (members : List (String × Value R)) :
    Reads (AreMeaningMembers members) (readMeaning (.object members)) := by
  have definitions := firstItems_reads ((Value.member? members "definitions").getD (.list []))
  have whole : Reads
      (AreDefinitions ((Value.member? members "definitions").getD (.list [])) ∧
        (Value.member? members "partOfSpeech").isSome ∧
          ∀ value, Value.member? members "synonyms" = some value → value.isGiven = true →
            value.elements?.isSome)
      (readMeaning (.object members)) := by
    rw [readMeaning]
    simp only [Value.members?, ok_bind]
    rw [← bind_assoc]
    exact definitions.bind fun _ _ =>
      (required_reads members "partOfSpeech").bind fun _ _ => (readSynonyms_reads members).map
  apply whole.of_iff
  constructor
  · rintro ⟨shown, spoken, alike⟩
    refine ⟨?_, spoken, alike⟩
    intro value found
    rwa [found] at shown
  · rintro ⟨shown, spoken, alike⟩
    refine ⟨?_, spoken, alike⟩
    cases found : Value.member? members "definitions" with
    | none => simp [AreDefinitions]
    | some value => exact shown value found

theorem isMeaning_object_iff {members : List (String × Value R)} :
    IsMeaning (.object members) ↔ AreMeaningMembers members := by
  simp [IsMeaning]

/-- A meaning is read, or fails the lookup, or is no object. -/
theorem readMeaning_cases (value : Value R) :
    (value.shape = .mapping ∧ Reads (IsMeaning value) (readMeaning value)) ∨
      value.shape ≠ .mapping ∧ readMeaning value = .error (.noSuchMember value.shape "get") := by
  cases value with
  | object members =>
      exact Or.inl ⟨rfl, (readMeaning_reads members).of_iff isMeaning_object_iff.symm⟩
  | null | bool | int | real | text | list => exact Or.inr ⟨by simp [Value.shape], rfl⟩

theorem readMeaning_eq_ok_iff {value : Value R} :
    (∃ meaning, readMeaning value = .ok meaning) ↔ IsMeaning value := by
  rcases readMeaning_cases value with ⟨_, reads⟩ | ⟨noObject, fault⟩
  · exact reads.ok_iff
  · rw [fault]
    constructor
    · simp
    · rintro ⟨members, rfl, _⟩
      exact absurd rfl noObject

theorem ofPayload_object (members : List (String × Value R)) (others meanings : List (Value R))
    (found : meaningsOf? members = some meanings) :
    ofPayload (.list (.object members :: others)) =
      (meanings.mapM readMeaning >>= fun meanings => required members "word" >>= fun word =>
        pure {
          word
          phonetic := optionalText members "phonetic"
          meanings
          origin := optionalText members "origin" }) := by
  rw [meaningsOf?] at found
  rw [ofPayload, ofMembers, readMeanings, found]

theorem ofPayload_of_wellFormed {payload : Value R} (wellFormed : WellFormed payload) :
    ∃ entry, ofPayload payload = .ok entry := by
  rcases wellFormed with ⟨members, others, meanings, rfl, hasWord, found, readable⟩
  rw [ofPayload_object members others meanings found]
  cases read : meanings.mapM readMeaning with
  | error fault =>
      rcases mapM_eq_error_iff.mp read with ⟨before, meaning, after, rfl, _, fails⟩
      rcases readMeaning_eq_ok_iff.mpr (readable meaning (by simp)) with ⟨_, succeeds⟩
      rw [succeeds] at fails
      contradiction
  | ok shown =>
      rcases (required_reads members "word").ok_iff.mpr hasWord with ⟨word, named⟩
      rw [ok_bind, named]
      exact ⟨_, rfl⟩

theorem ofPayload_of_strays {payload : Value R} {shape : Shape} (strays : Strays payload shape) :
    ofPayload payload = .error (.noSuchMember shape "get") := by
  rcases strays with ⟨members, others, before, stray, after, rfl, found, readable, rfl, noObject⟩
  have fault : readMeaning stray = .error (.noSuchMember stray.shape "get") := by
    rcases readMeaning_cases stray with ⟨isObject, _⟩ | ⟨_, fault⟩
    · contradiction
    · exact fault
  have stops : (before ++ stray :: after).mapM readMeaning =
      .error (.noSuchMember stray.shape "get") := by
    apply mapM_eq_error_iff.mpr
    exact ⟨before, stray, after, rfl,
      fun meaning meaning_mem => readMeaning_eq_ok_iff.mpr (readable meaning meaning_mem), fault⟩
  rw [ofPayload_object members others _ found, stops, error_bind]

/-- A payload is well formed, or strays, or fails the lookup. -/
theorem ofPayload_cases (payload : Value R) :
    WellFormed payload ∨ (∃ shape, Strays payload shape) ∨
      ∃ failure, ofPayload payload = .error (.lookupFailed failure) := by
  match payload with
  | .list (.object members :: others) =>
      cases found : meaningsOf? members with
      | none =>
          refine Or.inr (Or.inr ⟨.malformed, ?_⟩)
          rw [meaningsOf?] at found
          rw [ofPayload, ofMembers, readMeanings, found]
          rfl
      | some meanings =>
          rw [ofPayload_object members others meanings found]
          cases read : meanings.mapM readMeaning with
          | ok shown =>
              have readable : ∀ meaning ∈ meanings, IsMeaning meaning := by
                intro meaning meaning_mem
                apply readMeaning_eq_ok_iff.mp
                exact exists_mapM_eq_ok_iff.mp ⟨shown, read⟩ meaning meaning_mem
              by_cases hasWord : (Value.member? members "word").isSome
              · exact Or.inl ⟨members, others, meanings, rfl, hasWord, found, readable⟩
              · rcases (required_reads members "word").exists_failure hasWord with ⟨failure, fails⟩
                rw [ok_bind, fails]
                exact Or.inr (Or.inr ⟨failure, rfl⟩)
          | error fault =>
              rcases mapM_eq_error_iff.mp read with ⟨before, meaning, after, rfl, succeed, fails⟩
              rcases readMeaning_cases meaning with ⟨_, reads⟩ | ⟨noObject, _⟩
              · have unreadable : ¬ IsMeaning meaning := by
                  rw [← readMeaning_eq_ok_iff, fails]
                  simp
                rcases reads.exists_failure unreadable with ⟨failure, lookup⟩
                cases fails.symm.trans lookup
                exact Or.inr (Or.inr ⟨failure, rfl⟩)
              · refine Or.inr (Or.inl ⟨meaning.shape, members, others, before, meaning, after, rfl,
                  found, ?_, rfl, noObject⟩)
                intro earlier earlier_mem
                exact readMeaning_eq_ok_iff.mp (succeed earlier earlier_mem)
  | .null | .bool _ | .int _ | .real _ | .text _ | .object _ | .list [] | .list (.null :: _)
  | .list (.bool _ :: _) | .list (.int _ :: _) | .list (.real _ :: _) | .list (.text _ :: _)
  | .list (.list _ :: _) => exact Or.inr (Or.inr ⟨.unexpectedPayload, rfl⟩)

theorem ofPayload_eq_ok_iff {payload : Value R} :
    (∃ entry, ofPayload payload = .ok entry) ↔ WellFormed payload := by
  refine ⟨?_, ofPayload_of_wellFormed⟩
  rintro ⟨entry, read⟩
  rcases ofPayload_cases payload with wellFormed | ⟨shape, strays⟩ | ⟨failure, fails⟩
  · exact wellFormed
  · cases read.symm.trans (ofPayload_of_strays strays)
  · cases read.symm.trans fails

theorem ofPayload_eq_lookupFailed_iff {payload : Value R} :
    (∃ failure, ofPayload payload = .error (.lookupFailed failure)) ↔
      ¬ WellFormed payload ∧ ∀ shape, ¬ Strays payload shape := by
  constructor
  · rintro ⟨failure, fails⟩
    constructor
    · intro wellFormed
      rcases ofPayload_of_wellFormed wellFormed with ⟨entry, read⟩
      cases fails.symm.trans read
    · intro shape strays
      cases fails.symm.trans (ofPayload_of_strays strays)
  · rintro ⟨malformed, straight⟩
    rcases ofPayload_cases payload with wellFormed | ⟨shape, strays⟩ | fails
    · exact absurd wellFormed malformed
    · exact absurd strays (straight shape)
    · exact fails

end Entry

namespace Resolver

variable {resolver : Resolver R} {word : String}

/-- The payload of the reply for a word, if the service answers with success and with JSON. -/
def payload? (resolver : Resolver R) (word : String) : Option (Value R) :=
  if resolver.offline then none
  else
    match resolver.service (resolver.requestPath word) with
    | .answered status body => if status == 200 then body.value? else none
    | _ => none

/-- What a word is resolved to: the entry of a well-formed payload, and the fallback in every other
case. -/
inductive Answers (resolver : Resolver R) (word : String) : Option (Entry R) → Prop where
  | entry {payload : Value R} {entry : Entry R} (replied : resolver.payload? word = some payload)
      (wellFormed : Entry.WellFormed payload) (read : Entry.ofPayload payload = .ok entry) :
      Answers resolver word (some entry)
  | fallback
      (nothing : ∀ payload, resolver.payload? word = some payload → ¬ Entry.WellFormed payload) :
      Answers resolver word (Entry.ofFunctionWord? word)

/-- The faults of a word that no lookup catches: the service breaks down, or a payload strays. -/
inductive Escapes (resolver : Resolver R) (word : String) : Fault → Prop where
  | crashed {message : String} (online : resolver.offline = false)
      (reply : resolver.service (resolver.requestPath word) = .crashed message) :
      Escapes resolver word (.crashed message)
  | strays {payload : Value R} {shape : Shape} (replied : resolver.payload? word = some payload)
      (strays : Entry.Strays payload shape) : Escapes resolver word (.noSuchMember shape "get")

/-- Looking up a word that has a payload. -/
theorem lookup_of_payload {payload : Value R} (replied : resolver.payload? word = some payload) :
    resolver.lookup word =
      match Entry.ofPayload payload with
      | .ok entry => .ok (some entry)
      | .error (.lookupFailed _) => .ok (Entry.ofFunctionWord? word)
      | .error fault => .error fault := by
  rw [payload?] at replied
  split at replied
  · contradiction
  · rename_i online
    split at replied
    · rename_i status body reply
      split at replied
      · rename_i success
        rewrite [lookup, if_neg online, reply, Reply.entry, if_pos success, replied]
        rfl
      · contradiction
    · contradiction

/-- Looking up a word that has no payload: without an answer of the service that is JSON, the
function words are the fallback, unless the service breaks down. -/
theorem lookup_of_no_payload (nothing : resolver.payload? word = none) :
    resolver.lookup word = .ok (Entry.ofFunctionWord? word) ∨
      ∃ fault, resolver.lookup word = .error fault ∧ resolver.Escapes word fault := by
  cases online : resolver.offline with
  | true => exact Or.inl (by rw [lookup, if_pos online])
  | false =>
      rw [payload?, online, if_neg Bool.false_ne_true] at nothing
      rw [lookup, online, if_neg Bool.false_ne_true]
      cases reply : resolver.service (resolver.requestPath word) with
      | crashed message => exact Or.inr ⟨_, rfl, .crashed online reply⟩
      | unreachable reason => exact Or.inl rfl
      | answered status body =>
          simp only [reply] at nothing
          left
          by_cases success : (status == 200) = true
          · rw [if_pos success] at nothing
            simp only [Reply.entry, if_pos success, nothing]
          · simp only [Reply.entry, if_neg success]

/-- Looking a word up gives its answer, or ends in a fault that escapes. -/
theorem lookup_cases (resolver : Resolver R) (word : String) :
    (∃ answer?, resolver.lookup word = .ok answer? ∧ resolver.Answers word answer?) ∨
      ∃ fault, resolver.lookup word = .error fault ∧ resolver.Escapes word fault := by
  cases replied : resolver.payload? word with
  | none =>
      rcases lookup_of_no_payload replied with found | escapes
      · exact Or.inl ⟨_, found, .fallback (by simp [replied])⟩
      · exact Or.inr escapes
  | some payload =>
      rw [lookup_of_payload replied]
      rcases Entry.ofPayload_cases payload with wellFormed | ⟨shape, strays⟩ | ⟨failure, fails⟩
      · rcases Entry.ofPayload_of_wellFormed wellFormed with ⟨entry, read⟩
        rw [read]
        exact Or.inl ⟨_, rfl, .entry replied wellFormed read⟩
      · rw [Entry.ofPayload_of_strays strays]
        exact Or.inr ⟨_, rfl, .strays replied strays⟩
      · have malformed := (Entry.ofPayload_eq_lookupFailed_iff.mp ⟨failure, fails⟩).1
        rw [fails]
        refine Or.inl ⟨_, rfl, .fallback ?_⟩
        intro other same
        cases replied.symm.trans same
        exact malformed

theorem lookup_of_escapes {fault : Fault} (escapes : resolver.Escapes word fault) :
    resolver.lookup word = .error fault := by
  cases escapes with
  | crashed online reply =>
      rw [lookup, online, if_neg Bool.false_ne_true, reply]
      rfl
  | strays replied strays => rw [lookup_of_payload replied, Entry.ofPayload_of_strays strays]

theorem exists_lookup_eq_ok_iff :
    (∃ answer?, resolver.lookup word = .ok answer?) ↔ ∀ fault, ¬ resolver.Escapes word fault := by
  constructor
  · rintro ⟨answer?, found⟩ fault escapes
    cases found.symm.trans (lookup_of_escapes escapes)
  · intro caught
    rcases lookup_cases resolver word with ⟨answer?, found, _⟩ | ⟨fault, _, escapes⟩
    · exact ⟨answer?, found⟩
    · exact absurd escapes (caught fault)

/-- Words are resolved exactly if no fault of theirs escapes. Each of them then has the entry of its
payload if that is well formed, and the fallback otherwise; else the fault of the first word with
one comes through. Of a payload, the entry is given exactly if it is well formed, and the lookup
fails unless it strays. -/
theorem resolve_decides (resolver : Resolver R) (words : List String) :
    ((∃ entries, resolver.resolve words = .ok entries) ↔
        ∀ word ∈ words, ∀ fault, ¬ resolver.Escapes word fault) ∧
      (∀ entries, resolver.resolve words = .ok entries →
        List.Forall₂ resolver.Answers words entries) ∧
      (∀ fault, resolver.resolve words = .error fault →
        ∃ before word after, words = before ++ word :: after ∧ resolver.Escapes word fault ∧
          ∀ other ∈ before, ∀ caught, ¬ resolver.Escapes other caught) ∧
      ∀ payload : Value R,
        ((∃ entry, Entry.ofPayload payload = .ok entry) ↔ Entry.WellFormed payload) ∧
          ((∃ failure, Entry.ofPayload payload = .error (.lookupFailed failure)) ↔
            ¬ Entry.WellFormed payload ∧ ∀ shape, ¬ Entry.Strays payload shape) := by
  refine ⟨?_, ?_, ?_, fun payload =>
    ⟨Entry.ofPayload_eq_ok_iff, Entry.ofPayload_eq_lookupFailed_iff⟩⟩
  · rw [resolve, exists_mapM_eq_ok_iff]
    simp only [exists_lookup_eq_ok_iff]
  · intro entries resolved
    apply (mapM_eq_ok_iff.mp resolved).imp
    intro word answer? found
    rcases lookup_cases resolver word with ⟨other, same, answers⟩ | ⟨fault, fails, _⟩
    · cases found.symm.trans same
      exact answers
    · cases found.symm.trans fails
  · intro fault fails
    rcases mapM_eq_error_iff.mp fails with ⟨before, word, after, split, succeed, here⟩
    refine ⟨before, word, after, split, ?_, ?_⟩
    · rcases lookup_cases resolver word with ⟨_, found, _⟩ | ⟨other, same, escapes⟩
      · cases here.symm.trans found
      · cases here.symm.trans same
        exact escapes
    · intro other other_mem
      exact exists_lookup_eq_ok_iff.mp (succeed other other_mem)

/-- A dictionary whose entries have a text in place of a meaning. -/
def astray : Resolver Float where
  address := "http://dict.test/en"
  offline := false
  service _ :=
    .answered 200 (.encoded
      (.list [.object [("word", .text "dog"), ("meanings", .list [.text "a pet"])]]))

/-- A reply with status 200 and a JSON body can end the looking up of words, although no word needs
more than its fallback. -/
theorem resolve_astray :
    (∀ path message, astray.service path ≠ .crashed message) ∧
      astray.resolve ["dog"] = .error (.noSuchMember .text "get") := by
  refine ⟨by simp [astray], ?_⟩
  have strays : astray.Escapes "dog" (.noSuchMember .text "get") :=
    .strays rfl ⟨_, _, [], _, [], rfl, rfl, by simp, rfl, by decide⟩
  rw [resolve, List.mapM_cons, lookup_of_escapes strays]
  rfl

end Resolver

end SentenceGraph
