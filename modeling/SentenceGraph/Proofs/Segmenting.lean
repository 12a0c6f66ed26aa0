import Mathlib.Data.List.Perm.Subperm
import SentenceGraph.Proofs.Parsing
import SentenceGraph.Tagging

/-!
# Clauses read off segments

The cuts of a sentence leave segments between them, one more than there are cuts. Each clause is read
off its segment alone: its subject is the first nominal, its predicate the first verbal, its objects
are the nouns after the predicate other than the subject, and its modifiers are all of the segment.

Putting one more token into a clause gives what is read off a segment that is one token longer. This
is the step of an induction over the sentence. A token also fills at most one slot of the clause that
it is put into, so that no token fills two slots of a sentence.
-/

namespace SentenceGraph

variable {R : Type} {tokens : List (Token R)}

namespace Token

/-- Every token has its place as its index. -/
def Placed (tokens : List (Token R)) : Prop :=
  ∀ (place : Nat) (token : Token R), tokens[place]? = some token → token.index = place

theorem Placed.pairwise (placed : Placed tokens) :
    tokens.Pairwise fun first second => first.index < second.index := by
  rw [List.pairwise_iff_getElem]
  intro first second firstInside secondInside before
  rw [placed first _ (List.getElem?_eq_getElem firstInside),
    placed second _ (List.getElem?_eq_getElem secondInside)]
  omega

theorem nominal_of_noun {token : Token R} (noun : token.isTagged (· == .noun) = true) :
    token.isTagged PartOfSpeech.isNominal = true :=
  isTagged_iff.mpr ⟨.noun, isTagged_eq_iff.mp noun, rfl⟩

end Token

theorem Tagging.placed_tokens [Quantity R] (words : List String)
    (entries : List (Option (Entry R))) : Token.Placed (Tagging.tokens words entries) := by
  intro place token found
  rw [Tagging.tokens, List.getElem?_map, List.getElem?_zipIdx, Option.map_map,
    Option.map_eq_some_iff] at found
  rcases found with ⟨pair, _, rfl⟩
  simp [Tagging.token]

namespace Segment

variable (segment : List (Token R)) (token next : Token R)

/-- The first nominal of a segment. -/
def subject? : Option (Token R) :=
  segment.find? (·.isTagged PartOfSpeech.isNominal)

/-- The first verbal of a segment. -/
def predicate? : Option (Token R) :=
  segment.find? (·.isTagged PartOfSpeech.isVerbal)

/-- The token at a place of a segment is a noun after the predicate and is not the subject. -/
def IsObject (token : Token R) (place : Nat) : Prop :=
  token.isTagged (· == .noun) ∧ segment.findIdx (·.isTagged PartOfSpeech.isVerbal) < place ∧
    segment.findIdx (·.isTagged PartOfSpeech.isNominal) ≠ place

instance (place : Nat) : Decidable (IsObject segment token place) :=
  inferInstanceAs (Decidable (_ ∧ _))

def objects : List (Token R) :=
  (segment.zipIdx.filter fun (token, place) => IsObject segment token place).map Prod.fst

def modifiers : List (Token R) :=
  segment.filter (·.isTagged PartOfSpeech.isModifier)

variable {segment token next}

theorem isObject_append_of_lt {place : Nat} (inside : place < segment.length) :
    IsObject (segment ++ [next]) token place ↔ IsObject segment token place := by
  have bounded : ∀ meant, segment.findIdx meant ≤ segment.length :=
    fun _ => List.findIdx_le_length
  refine and_congr Iff.rfl (and_congr ?_ (not_congr ?_))
  · have verbals := bounded (·.isTagged PartOfSpeech.isVerbal)
    rw [List.findIdx_append]
    split <;> omega
  · have nominals := bounded (·.isTagged PartOfSpeech.isNominal)
    rw [List.findIdx_append]
    split <;> omega

/-- One more noun is an object if there are a predicate and a subject before it. -/
theorem isObject_append_length :
    IsObject (segment ++ [token]) token segment.length ↔
      token.isTagged (· == .noun) ∧ (predicate? segment).isSome ∧ (subject? segment).isSome := by
  have found : ∀ meant, (segment.find? meant).isSome ↔ segment.findIdx meant < segment.length := by
    intro meant
    rw [List.find?_isSome, List.findIdx_lt_length]
  apply and_congr_right
  intro noun
  apply and_congr
  · rw [predicate?, found, List.findIdx_append]
    split <;> omega
  · -- A noun is a nominal, so that it is the subject if there is none before it.
    have last : [token].findIdx (·.isTagged PartOfSpeech.isNominal) = 0 := by
      simp [List.findIdx_cons, Token.nominal_of_noun noun]
    rw [subject?, found, List.findIdx_append, last]
    split <;> omega

theorem objects_append :
    objects (segment ++ [token]) =
      objects segment ++
        if token.isTagged (· == .noun) ∧ (predicate? segment).isSome ∧ (subject? segment).isSome then
          [token]
        else [] := by
  unfold objects
  rw [List.zipIdx_append, List.filter_append, List.map_append]
  congr 1
  · congr 1
    apply List.filter_congr
    intro pair pair_mem
    rw [decide_eq_decide]
    exact isObject_append_of_lt (List.snd_lt_of_mem_zipIdx pair_mem)
  · rw [List.zipIdx_singleton, Nat.zero_add, List.filter_singleton]
    by_cases isObject : IsObject (segment ++ [token]) token segment.length
    · rw [if_pos (isObject_append_length.mp isObject)]
      simp [isObject]
    · rw [if_neg (mt isObject_append_length.mpr isObject)]
      simp [isObject]

/-- The tokens of a segment that play a part in its clause. -/
theorem mem_of_mem_parts
    (token_mem : token ∈ (subject? segment).toList ++ (predicate? segment).toList ++
      objects segment ++ modifiers segment) : token ∈ segment := by
  simp only [List.mem_append, Option.mem_toList] at token_mem
  rcases token_mem with ((isSubject | isPredicate) | isObject) | isModifier
  · exact List.mem_of_find?_eq_some isSubject
  · exact List.mem_of_find?_eq_some isPredicate
  · rcases List.mem_map.mp isObject with ⟨⟨token, place⟩, pair_mem, rfl⟩
    exact List.fst_mem_of_mem_zipIdx (List.mem_of_mem_filter pair_mem)
  · exact List.mem_of_mem_filter isModifier

end Segment

/-- The slot of a token, if the token is of a class. -/
def Slot.ofTagged? (choice : PartOfSpeech → Bool) (token : Token R) : Option (Slot R) :=
  if token.isTagged choice then some (.ofToken token) else none

namespace Clause

variable {clause : Clause R} {token : Token R} {segment : List (Token R)}

/-- The segments of a sentence between its cuts. -/
def segments (tokens : List (Token R)) : List (List (Token R)) :=
  tokens.splitOnP isCut

/-- The clause of a segment. -/
def ofSegment (segment : List (Token R)) : Clause R where
  subject := (Segment.subject? segment).map .ofToken
  predicate := (Segment.predicate? segment).map .ofToken
  objects := (Segment.objects segment).map .ofToken
  modifiers := (Segment.modifiers segment).map .ofToken
  complements := []

def slots (clause : Clause R) : List (Slot R) :=
  clause.subject.toList ++ clause.predicate.toList ++ clause.objects ++ clause.modifiers ++
    clause.complements

theorem slots_ofSegment :
    (ofSegment segment).slots =
      ((Segment.subject? segment).toList ++ (Segment.predicate? segment).toList ++
        Segment.objects segment ++ Segment.modifiers segment).map .ofToken := by
  simp [slots, ofSegment, Option.toList_map]

/-- What a token changes in a clause, slot by slot. -/
theorem place_eq (clause : Clause R) (token : Token R) :
    clause.place token =
      { subject := clause.subject.or (Slot.ofTagged? PartOfSpeech.isNominal token)
        predicate := clause.predicate.or (Slot.ofTagged? PartOfSpeech.isVerbal token)
        objects := clause.objects ++
          if token.isTagged (· == .noun) ∧ clause.predicate.isSome ∧ clause.subject.isSome then
            [.ofToken token]
          else []
        modifiers := clause.modifiers ++ (Slot.ofTagged? PartOfSpeech.isModifier token).toList
        complements := clause.complements } := by
  rcases clause with ⟨subject, predicate, objects, modifiers, complements⟩
  unfold place Slot.ofTagged? Token.isTagged
  cases token.partOfSpeech? with
  | none => simp
  | some part =>
      cases part <;> cases subject <;> cases predicate <;>
        simp [PartOfSpeech.isNominal, PartOfSpeech.isVerbal, PartOfSpeech.isModifier]

theorem subperm_insert (before after : List (Slot R)) (slot : Slot R) :
    (before ++ slot :: after).Subperm (before ++ after ++ [slot]) :=
  (List.perm_middle.trans (List.perm_append_singleton slot (before ++ after)).symm).subperm

/-- A token fills at most one slot of a clause that it is put into. -/
theorem slots_place_subperm (clause : Clause R) (token : Token R) :
    (clause.place token).slots.Subperm (clause.slots ++ [.ofToken token]) := by
  have unchanged : clause.slots.Subperm (clause.slots ++ [.ofToken token]) :=
    (List.sublist_append_left _ _).subperm
  rcases clause with ⟨subject, predicate, objects, modifiers, complements⟩
  unfold place
  split
  case isTrue fills =>
    rw [Bool.and_eq_true, Option.isNone_iff_eq_none] at fills
    obtain rfl : subject = none := fills.2
    simpa [slots] using subperm_insert [] (predicate.toList ++ objects ++ modifiers ++ complements)
      (.ofToken token)
  case isFalse =>
    split
    case isTrue =>
      split
      case isTrue free =>
        obtain rfl : predicate = none := Option.isNone_iff_eq_none.mp free
        simpa [slots] using subperm_insert subject.toList (objects ++ modifiers ++ complements)
          (.ofToken token)
      case isFalse => exact unchanged
    case isFalse =>
      split
      case isTrue =>
        simpa [slots] using subperm_insert (subject.toList ++ predicate.toList ++ objects)
          (modifiers ++ complements) (.ofToken token)
      case isFalse =>
        split
        case isTrue =>
          simpa [slots] using subperm_insert
            (subject.toList ++ predicate.toList ++ objects ++ modifiers) complements (.ofToken token)
        case isFalse => exact unchanged

theorem slots_continued_subperm (current : Clause R) (rest : List (Token R)) :
    ((continued current rest).flatMap slots).Subperm (current.slots ++ rest.map .ofToken) := by
  induction rest generalizing current with
  | nil => simp [continued, List.Subperm.refl]
  | cons token rest inductionHypothesis =>
      rw [continued, List.map_cons]
      split
      · rw [List.flatMap_cons, List.subperm_append_left]
        exact (inductionHypothesis {}).trans (List.sublist_cons_self _ _).subperm
      · apply (inductionHypothesis (current.place token)).trans
        have step := slots_place_subperm current token
        rw [← List.subperm_append_right (rest.map .ofToken), List.append_assoc] at step
        exact step

theorem place_ofSegment : (ofSegment segment).place token = ofSegment (segment ++ [token]) := by
  have first : ∀ choice, ([token].find? (·.isTagged choice)).map Slot.ofToken =
      Slot.ofTagged? choice token := by
    intro choice
    cases tagged : token.isTagged choice <;> simp [Slot.ofTagged?, tagged]
  have kept : ([token].filter (·.isTagged PartOfSpeech.isModifier)).map Slot.ofToken =
      (Slot.ofTagged? PartOfSpeech.isModifier token).toList := by
    cases tagged : token.isTagged PartOfSpeech.isModifier <;> simp [Slot.ofTagged?, tagged]
  have objects : (Segment.objects (segment ++ [token])).map Slot.ofToken =
      (ofSegment segment).objects ++
        if token.isTagged (· == .noun) ∧ (ofSegment segment).predicate.isSome ∧
            (ofSegment segment).subject.isSome then
          [.ofToken token]
        else [] := by
    simp only [Segment.objects_append, List.map_append, apply_ite (List.map _), List.map_cons,
      List.map_nil, ofSegment, Option.isSome_map]
  rw [place_eq, ← objects]
  simp only [ofSegment, Segment.subject?, Segment.predicate?, Segment.modifiers, List.find?_append,
    List.filter_append, List.map_append, Option.map_or, first, kept]

/-- The clauses of a sentence whose first segment has been read in part. -/
theorem continued_ofSegment (read rest : List (Token R)) :
    continued (ofSegment read.reverse) rest =
      (List.splitOnPPrepend isCut rest read).map ofSegment := by
  induction rest generalizing read with
  | nil => simp [continued]
  | cons token rest inductionHypothesis =>
      rw [continued, List.splitOnPPrepend_cons_eq_if]
      split
      · rw [List.map_cons, ← List.splitOnPPrepend_nil_right, ← inductionHypothesis]
        rfl
      · rw [place_ofSegment, ← List.reverse_cons, inductionHypothesis]

theorem ofTokens_eq_map_segments : ofTokens tokens = (segments tokens).map ofSegment :=
  continued_ofSegment [] tokens

section Segments

variable (tokens)

theorem length_segments : (segments tokens).length = tokens.countP isCut + 1 := by
  unfold segments
  induction tokens with
  | nil => simp
  | cons token rest inductionHypothesis =>
      rw [List.splitOnP_cons_eq_if_modifyHead, List.countP_cons]
      split
      · simp [inductionHypothesis]
      · simp [inductionHypothesis]

theorem flatten_segments : (segments tokens).flatten = tokens.filter (!isCut ·) := by
  unfold segments
  induction tokens with
  | nil => simp
  | cons token rest inductionHypothesis =>
      rw [List.splitOnP_cons_eq_if_modifyHead]
      by_cases cut : isCut token = true
      · simp [cut, inductionHypothesis]
      · rcases List.exists_cons_of_ne_nil (List.splitOnP_ne_nil isCut rest) with
          ⟨first, others, same⟩
        rw [same] at inductionHypothesis ⊢
        simpa [cut] using inductionHypothesis

end Segments

theorem mem_of_mem_segment (segment_mem : segment ∈ segments tokens) (token_mem : token ∈ segment) :
    token ∈ tokens ∧ isCut token = false := by
  have kept : token ∈ tokens.filter (!isCut ·) := by
    rw [← flatten_segments]
    exact List.mem_flatten_of_mem segment_mem token_mem
  simpa using List.mem_filter.mp kept

theorem exists_token_of_mem_slots {slot : Slot R} (slot_mem : slot ∈ (ofSegment segment).slots) :
    ∃ token ∈ segment, slot = .ofToken token := by
  rw [slots_ofSegment] at slot_mem
  rcases List.mem_map.mp slot_mem with ⟨token, token_mem, rfl⟩
  exact ⟨token, Segment.mem_of_mem_parts token_mem, rfl⟩

theorem nodup_map_position (placed : Token.Placed tokens) :
    (((ofTokens tokens).flatMap slots).map Slot.position).Nodup := by
  rcases slots_continued_subperm {} tokens with ⟨filled, same, included⟩
  have distinct : ((tokens.map Slot.ofToken).map Slot.position).Nodup := by
    rw [List.map_map]
    apply List.pairwise_map.mpr
    exact placed.pairwise.imp Int.ne_of_lt
  exact (same.map Slot.position).nodup_iff.mp (distinct.sublist (included.map Slot.position))

theorem pairwise_position (placed : Token.Placed tokens) :
    (ofTokens tokens).Pairwise fun earlier later =>
      ∀ first ∈ earlier.slots, ∀ second ∈ later.slots, first.position < second.position := by
  have increasing := placed.pairwise.filter (!isCut ·)
  rw [← flatten_segments, List.pairwise_flatten] at increasing
  rw [ofTokens_eq_map_segments, List.pairwise_map]
  apply increasing.2.imp
  intro earlier later before first first_mem second second_mem
  rcases exists_token_of_mem_slots first_mem with ⟨token, token_mem, rfl⟩
  rcases exists_token_of_mem_slots second_mem with ⟨other, other_mem, rfl⟩
  exact before token token_mem other other_mem

/-- The clauses of a sentence are read off its segments, one clause off each. There is one segment
more than cuts; no segment has a cut, and the segments with the cuts between them are the sentence.
No token fills more than one slot of the sentence. If every token has its place as its index, then no
place comes up in two slots, and every clause comes before the next one. -/
theorem ofTokens_reads_segments (tokens : List (Token R)) :
    ofTokens tokens = (segments tokens).map ofSegment ∧
      (segments tokens).length = tokens.countP isCut + 1 ∧
      (∀ segment ∈ segments tokens, ∀ token ∈ segment, isCut token = false) ∧
      (List.zipWith (· ++ ·) (segments tokens)
        ((tokens.filter isCut).map (fun cut => [cut]) ++ [[]])).flatten = tokens ∧
      ((ofTokens tokens).flatMap slots).Subperm (tokens.map .ofToken) ∧
      (Token.Placed tokens →
        (((ofTokens tokens).flatMap slots).map Slot.position).Nodup ∧
          (ofTokens tokens).Pairwise fun earlier later =>
            ∀ first ∈ earlier.slots, ∀ second ∈ later.slots, first.position < second.position) := by
  refine ⟨ofTokens_eq_map_segments, length_segments tokens, ?_, List.splitOnP_spec tokens,
    slots_continued_subperm {} tokens, ?_⟩
  · intro segment segment_mem token token_mem
    exact (mem_of_mem_segment segment_mem token_mem).2
  · intro placed
    exact ⟨nodup_map_position placed, pairwise_position placed⟩

theorem ofTokens_reads_segments_pets :
    let tokens := Tagging.tokens ["cats", "chased", "dogs", "and", "dogs", "slept"]
      (List.replicate 6 (none : Option (Entry Float)))
    Token.Placed tokens ∧
      (((ofTokens tokens).flatMap slots).map Slot.position).Nodup ∧
        (ofTokens tokens).Pairwise fun earlier later =>
          ∀ first ∈ earlier.slots, ∀ second ∈ later.slots, first.position < second.position := by
  intro tokens
  have placed := Tagging.placed_tokens (R := Float) ["cats", "chased", "dogs", "and", "dogs", "slept"]
    (List.replicate 6 none)
  exact ⟨placed, (ofTokens_reads_segments tokens).2.2.2.2.2 placed⟩

end Clause

end SentenceGraph
