import SentenceGraph.Proofs.Lowering
import SentenceGraph.Proofs.Separating

/-!
# Keywords among words

A keyword is a word. It occurs in a text if it is one of the words of the text: it is never found
inside a longer word or across a gap. So the search for some keywords, however a pattern puts them
together, is a question about the words of a text and not about its characters.

In texts that are put together from parts with spaces between them, even parts that are no words, a
keyword occurs where it occurs in one of the parts.
-/

namespace SentenceGraph.Text

section Runs

theorem any_words (text : String) (choice : Char → Bool) :
    (words text).any (fun word => word.toList.any choice) =
      text.toList.any fun character => isWordChar character && choice character := by
  have flattened := congrArg (List.any · choice) (flatten_words text)
  simpa only [List.any_flatten, List.any_map, List.any_filter, Function.comp_def] using flattened

theorem any_digit_words (text : String) :
    (words text).any (fun word => word.toList.any isDecimalDigit) =
      text.toList.any isDecimalDigit := by
  have absorbed : ∀ character,
      (isWordChar character && isDecimalDigit character) = isDecimalDigit character := by
    intro character
    cases digit : isDecimalDigit character with
    | false => simp
    | true => simp [isWordChar_of_isDecimalDigit digit]
  simp only [any_words, absorbed]

end Runs

section Spaces

variable {keyword : List Char} {parts : List (List Char)}

theorem startsWithWord_append_space (noSpace : ' ' ∉ keyword) (part rest : List Char) :
    startsWithWord keyword (part ++ ' ' :: rest) = startsWithWord keyword part := by
  induction keyword generalizing part with
  | nil =>
      cases part with
      | nil => simp [startsWithWord, isWordChar]
      | cons character part => simp [startsWithWord]
  | cons first keyword inductionHypothesis =>
      simp only [List.mem_cons, not_or] at noSpace
      cases part with
      | nil => simp [startsWithWord, Ne.symm noSpace.1]
      | cons character part =>
          have further := inductionHypothesis noSpace.2 part
          simp only [startsWithWord] at further
          simp only [startsWithWord, List.cons_append, List.isPrefixOf_cons_cons, List.length_cons,
            List.drop_succ_cons, Bool.and_assoc, further]

theorem occursFrom_append_space (noSpace : ' ' ∉ keyword) (inWord : Bool) (part rest : List Char) :
    occursFrom keyword inWord (part ++ ' ' :: rest) =
      (occursFrom keyword inWord part || occursFrom keyword false rest) := by
  induction part generalizing inWord with
  | nil =>
      have starts := startsWithWord_append_space noSpace [] rest
      have apart : isWordChar ' ' = false := by decide
      simp only [List.nil_append] at starts
      simp [occursFrom, starts, apart]
  | cons character part inductionHypothesis =>
      have starts := startsWithWord_append_space noSpace (character :: part) rest
      simp only [List.cons_append] at starts
      simp [occursFrom, starts, inductionHypothesis, Bool.or_assoc]

theorem occursFrom_intercalate (noSpace : ' ' ∉ keyword) (notEmpty : keyword ≠ [])
    (parts : List (List Char)) :
    occursFrom keyword false ([' '].intercalate parts) = parts.any (occursFrom keyword false) := by
  induction parts with
  | nil =>
      cases keyword with
      | nil => contradiction
      | cons first keyword => rfl
  | cons part parts inductionHypothesis =>
      cases parts with
      | nil => simp
      | cons next parts =>
          rw [List.intercalate_cons_cons, List.append_assoc, List.singleton_append,
            occursFrom_append_space noSpace, inductionHypothesis]
          rfl

theorem any_intercalate {choice : Char → Bool} (apart : choice ' ' = false)
    (parts : List (List Char)) :
    ([' '].intercalate parts).any choice = parts.any (List.any · choice) := by
  induction parts with
  | nil => rfl
  | cons part parts inductionHypothesis =>
      cases parts with
      | nil => simp
      | cons next parts =>
          rw [List.intercalate_cons_cons, List.append_assoc, List.any_append, List.any_append,
            inductionHypothesis]
          simp [apart]

/-- A keyword occurs in words with spaces between them where it occurs in one of the words. -/
theorem hasAnyWord_intercalate {keywords : List String}
    (usable : ∀ keyword ∈ keywords, ' ' ∉ keyword.toList ∧ keyword.toList ≠ [])
    (parts : List (List Char)) :
    hasAnyWord ([' '].intercalate parts) keywords = parts.any (hasAnyWord · keywords) := by
  have each : ∀ keyword ∈ keywords, hasWord ([' '].intercalate parts) keyword =
      parts.any (hasWord · keyword) := by
    intro keyword keyword_mem
    rcases usable keyword keyword_mem with ⟨noSpace, notEmpty⟩
    exact occursFrom_intercalate noSpace notEmpty parts
  rw [Bool.eq_iff_iff]
  simp only [hasAnyWord, List.any_eq_true]
  constructor
  · rintro ⟨keyword, keyword_mem, occurs⟩
    rw [each keyword keyword_mem, List.any_eq_true] at occurs
    rcases occurs with ⟨part, part_mem, occurs⟩
    exact ⟨part, part_mem, keyword, keyword_mem, occurs⟩
  · rintro ⟨part, part_mem, keyword, keyword_mem, occurs⟩
    refine ⟨keyword, keyword_mem, ?_⟩
    rw [each keyword keyword_mem, List.any_eq_true]
    exact ⟨part, part_mem, occurs⟩

end Spaces

section WholeWords

variable {keyword word gap rest : List Char} {pieces : List (List Char × List Char)}

theorem startsWithWord_append (isKeyword : IsWord keyword) (isWord : IsWord word)
    (ends : startsInWord rest = false) :
    startsWithWord keyword (word ++ rest) = (word == keyword) := by
  rw [Bool.eq_iff_iff, startsWithWord_eq, Bool.and_eq_true, List.isPrefixOf_iff_prefix,
    Bool.not_eq_true', beq_iff_eq]
  constructor
  · rintro ⟨⟨beyond, same⟩, apart⟩
    rw [← same, List.drop_left] at apart
    exact (append_inj_of_class same isKeyword.letters isWord.letters apart ends).1.symm
  · rintro rfl
    simpa using ends

theorem startsWithWord_outside (isKeyword : IsWord keyword) (outside : startsInWord rest = false) :
    startsWithWord keyword rest = false := by
  cases starts : startsWithWord keyword rest with
  | false => rfl
  | true => simp [startsInWord_of_startsWithWord isKeyword starts] at outside

theorem occursFrom_inWord (letters : ∀ character ∈ word, isWordChar character = true)
    (keyword rest : List Char) :
    occursFrom keyword true (word ++ rest) = occursFrom keyword true rest := by
  induction word with
  | nil => rfl
  | cons character word inductionHypothesis =>
      rw [List.forall_mem_cons] at letters
      simp [occursFrom, letters.1, inductionHypothesis letters.2]

theorem IsWord.occursFrom_append (isWord : IsWord word) (isKeyword : IsWord keyword)
    (ends : startsInWord rest = false) :
    occursFrom keyword false (word ++ rest) =
      (word == keyword || occursFrom keyword true rest) := by
  have here := startsWithWord_append isKeyword isWord ends
  rcases List.exists_cons_of_ne_nil isWord.notEmpty with ⟨first, others, rfl⟩
  have letters := List.forall_mem_cons.mp isWord.letters
  rw [← here, List.cons_append, occursFrom, letters.1, occursFrom_inWord letters.2]
  rfl

theorem IsGap.occursFrom_append (isGap : IsGap gap) (isKeyword : IsWord keyword)
    (rest : List Char) :
    occursFrom keyword false (gap ++ rest) = occursFrom keyword false rest := by
  induction gap with
  | nil => rfl
  | cons separator gap inductionHypothesis =>
      rw [isGap_cons] at isGap
      have outside : startsInWord (separator :: (gap ++ rest)) = false := by
        simpa [startsInWord] using isGap.1
      simp [occursFrom, startsWithWord_outside isKeyword outside, isGap.1,
        inductionHypothesis isGap.2]

/-- Behind a word and the gap after it, a keyword is looked for as at the start. -/
theorem IsGap.occursFrom_joined (isGap : IsGap gap) (apart : pieces ≠ [] → gap ≠ [])
    (isKeyword : IsWord keyword) :
    occursFrom keyword true (gap ++ joined pieces) = occursFrom keyword false (joined pieces) := by
  rcases isGap.ends_or_separates apart with ⟨rfl, rfl⟩ | ⟨separator, gap, rfl, outside, isGap⟩
  · have nothing : startsWithWord keyword [] = false := startsWithWord_outside isKeyword rfl
    simp [joined, occursFrom, nothing]
  · simp only [List.cons_append, occursFrom, outside, Bool.not_true, Bool.false_and,
      Bool.false_or]
    exact isGap.occursFrom_append isKeyword (joined pieces)

theorem ArePieces.occursFrom_joined (arePieces : ArePieces pieces) (isKeyword : IsWord keyword) :
    occursFrom keyword false (joined pieces) = (pieces.map Prod.fst).contains keyword := by
  induction arePieces with
  | nil =>
      have nothing : startsWithWord keyword [] = false := startsWithWord_outside isKeyword rfl
      simp [joined, occursFrom, nothing]
  | @cons word gap others isWord isGap apart further inductionHypothesis =>
      rw [joined_cons, isWord.occursFrom_append isKeyword (isGap.startsInWord_append apart),
        isGap.occursFrom_joined apart isKeyword, inductionHypothesis, List.map_cons,
        List.contains_cons]
      simp [BEq.comm]

theorem Cutting.occursFrom_eq {text : List Char} (cutting : Cutting text)
    (isKeyword : IsWord keyword) :
    occursFrom keyword false text = (runs text).contains keyword := by
  rw [cutting.runs_eq]
  rcases cutting with ⟨lead, pieces, rfl, isGap, arePieces⟩
  rw [isGap.occursFrom_append isKeyword, arePieces.occursFrom_joined isKeyword]

/-- A keyword occurs in a text if it is one of the words of the text. -/
theorem hasWord_eq {keyword : String} (isKeyword : IsWord keyword.toList) (text : String) :
    hasWord text.toList keyword = (words text).contains keyword := by
  have listed : (words text).contains keyword = (runs text.toList).contains keyword.toList := by
    rw [Bool.eq_iff_iff, List.contains_iff_mem, List.contains_iff_mem, words, List.mem_map]
    constructor
    · rintro ⟨word, word_mem, rfl⟩
      simpa using word_mem
    · intro keyword_mem
      exact ⟨keyword.toList, keyword_mem, String.ofList_toList⟩
  rcases exists_cutting text.toList with ⟨cutting⟩
  rw [hasWord, listed, cutting.occursFrom_eq isKeyword]

/-- Some keywords are found in a text if one of the words of the text is among them. -/
theorem hasAnyWord_eq {keywords : List String}
    (areWords : ∀ keyword ∈ keywords, IsWord keyword.toList) (text : String) :
    hasAnyWord text.toList keywords = (words text).any keywords.contains := by
  rw [Bool.eq_iff_iff, hasAnyWord, List.any_eq_true, List.any_eq_true]
  constructor
  · rintro ⟨keyword, keyword_mem, occurs⟩
    rw [hasWord_eq (areWords keyword keyword_mem), List.contains_iff_mem] at occurs
    exact ⟨keyword, occurs, List.contains_iff_mem.mpr keyword_mem⟩
  · rintro ⟨word, word_mem, listed⟩
    rw [List.contains_iff_mem] at listed
    refine ⟨word, listed, ?_⟩
    rwa [hasWord_eq (areWords word listed), List.contains_iff_mem]

end WholeWords

section FirstWords

variable {part : List Char} {parts : List (List Char)}

theorem intercalate_cons (part : List Char) (parts : List (List Char)) :
    [' '].intercalate (part :: parts) = part ++ parts.flatMap (' ' :: ·) := by
  induction parts generalizing part with
  | nil => simp
  | cons next parts inductionHypothesis =>
      rw [List.intercalate_cons_cons, inductionHypothesis]
      simp

theorem head?_flatMap_space {choice : Char → Bool} (apart : choice ' ' = false)
    (parts : List (List Char)) : (parts.flatMap (' ' :: ·)).head?.any choice = false := by
  cases parts with
  | nil => rfl
  | cons part parts => simpa using apart

/-- The first of some words ends at the first space of the words with spaces between them. -/
theorem takeWhile_intercalate (isWord : IsWord part) (parts : List (List Char)) :
    ([' '].intercalate (part :: parts)).takeWhile (· != ' ') = part := by
  have noSpace : ∀ character ∈ part, (character != ' ') = true := by
    intro character character_mem
    have letter := isWord.letters character character_mem
    rw [bne_iff_ne]
    rintro rfl
    exact absurd letter (by decide)
  rw [intercalate_cons, List.takeWhile_append_of_pos noSpace]
  cases parts with
  | nil => simp
  | cons next parts => simp

/-- Some words with spaces between them start with a keyword if it is the first of the words. -/
theorem startsWithAnyWord_intercalate {keywords : List String}
    (areKeywords : ∀ keyword ∈ keywords, IsWord keyword.toList) {words : List String}
    (areWords : ∀ word ∈ words, IsWord word.toList) :
    startsWithAnyWord ([' '].intercalate (words.map String.toList)) keywords =
      words.head?.any keywords.contains := by
  rw [Bool.eq_iff_iff, startsWithAnyWord, List.any_eq_true]
  cases words with
  | nil =>
      simp only [List.map_nil, List.intercalate_nil, List.head?_nil, Option.any_none,
        Bool.false_eq_true, iff_false, not_exists, not_and, Bool.not_eq_true]
      intro keyword keyword_mem
      exact startsWithWord_outside (areKeywords keyword keyword_mem) rfl
  | cons word words =>
      rw [List.forall_mem_cons] at areWords
      have ends := head?_flatMap_space (show isWordChar ' ' = false by decide)
        (words.map String.toList)
      have here : ∀ keyword ∈ keywords,
          startsWithWord keyword.toList ([' '].intercalate ((word :: words).map String.toList)) =
            (word.toList == keyword.toList) := by
        intro keyword keyword_mem
        rw [List.map_cons, intercalate_cons]
        exact startsWithWord_append (areKeywords keyword keyword_mem) areWords.1 ends
      rw [List.head?_cons, Option.any_some, List.contains_iff_mem]
      constructor
      · rintro ⟨keyword, keyword_mem, starts⟩
        rw [here keyword keyword_mem, beq_iff_eq, String.toList_inj] at starts
        rwa [starts]
      · intro word_mem
        refine ⟨word, word_mem, ?_⟩
        rw [here word word_mem]
        exact beq_self_eq_true word.toList

end FirstWords

namespace Pattern

/-- A pattern that spells some keywords and nothing else. -/
structure Spells (pattern : Pattern) (keywords : List String) : Prop where
  plain : pattern.isPlain = true
  perm : pattern.spellings.Perm (keywords.map String.toList)
  areWords : ∀ keyword ∈ keywords, IsWord keyword.toList

namespace Spells

variable {pattern : Pattern} {keywords : List String}

theorem isWord_of_mem_spellings (spells : pattern.Spells keywords) :
    ∀ spelling ∈ pattern.spellings, IsWord spelling := by
  intro spelling spelling_mem
  rcases List.mem_map.mp (spells.perm.mem_iff.mp spelling_mem) with ⟨keyword, keyword_mem, rfl⟩
  exact spells.areWords keyword keyword_mem

/-- A search for the pattern between edges of words looks for the keywords. -/
theorem occurs_wholeWord (spells : pattern.Spells keywords) (text : List Char) :
    (wholeWord pattern).occurs text = hasAnyWord text keywords := by
  rw [occurs, occursAfter_wholeWord spells.plain spells.isWord_of_mem_spellings,
    spells.perm.any_eq, List.any_map]
  rfl

/-- A search for the pattern at the start of a text looks for the keywords there. -/
theorem occurs_firstWord (spells : pattern.Spells keywords) (text : List Char) :
    (firstWord pattern).occurs text = startsWithAnyWord text keywords := by
  rw [Pattern.occurs_firstWord spells.plain spells.isWord_of_mem_spellings,
    spells.perm.any_eq, List.any_map]
  rfl

end Spells

end Pattern

end SentenceGraph.Text
