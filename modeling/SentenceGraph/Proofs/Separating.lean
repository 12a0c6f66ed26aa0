import Mathlib.Data.List.Basic
import SentenceGraph.Proofs.Patterns
import SentenceGraph.Text.Words

/-!
# Words and what separates them

A text falls apart into words and gaps in one way only: the gaps between words are not empty, so
that no word can be cut in two, and hold no word character, so that no word can be longer. The words
of a text are those of this cutting, and they are what a search for runs between edges of words
finds.

Everything rests on one equation: a character that is in no word separates the words before it from
the words behind it (`runsFrom_append`).
-/

namespace SentenceGraph.Text

/-- A text that separates words: it holds no word character. -/
def IsGap (characters : List Char) : Prop :=
  ∀ character ∈ characters, isWordChar character = false

variable {word gap rest : List Char} {separator : Char}

theorem isGap_cons : IsGap (separator :: gap) ↔ isWordChar separator = false ∧ IsGap gap :=
  List.forall_mem_cons

section Runs

theorem flatten_runsFrom (current characters : List Char) :
    (runsFrom current characters).flatten =
      current.reverse ++ characters.filter isWordChar := by
  induction characters generalizing current with
  | nil =>
      rw [runsFrom]
      split
      · rename_i empty
        simp [List.isEmpty_iff.mp empty]
      · simp
  | cons character rest inductionHypothesis =>
      rw [runsFrom]
      split
      · rename_i inWord
        simp [inductionHypothesis, inWord]
      · rename_i apart
        split
        · rename_i empty
          simp [inductionHypothesis, apart, List.isEmpty_iff.mp empty]
        · simp [inductionHypothesis, apart]

/-- The words of a text hold its word characters and nothing else. -/
theorem flatten_words (text : String) :
    ((words text).map String.toList).flatten = text.toList.filter isWordChar := by
  simp [words, runs, flatten_runsFrom, Function.comp_def]

theorem runsFrom_append (apart : isWordChar separator = false) (current left right : List Char) :
    runsFrom current (left ++ separator :: right) = runsFrom current left ++ runs right := by
  induction left generalizing current with
  | nil => cases current <;> simp [runsFrom, runs, apart]
  | cons character left inductionHypothesis =>
      cases letter : isWordChar character with
      | true => simp [runsFrom, letter, inductionHypothesis]
      | false => cases current <;> simp [runsFrom, letter, inductionHypothesis]

theorem runsFrom_of_letters (letters : ∀ character ∈ word, isWordChar character = true)
    (current rest : List Char) :
    runsFrom current (word ++ rest) = runsFrom (word.reverse ++ current) rest := by
  induction word generalizing current with
  | nil => rfl
  | cons character word inductionHypothesis =>
      rw [List.forall_mem_cons] at letters
      simp [runsFrom, letters.1, inductionHypothesis letters.2]

theorem IsWord.runs_eq (isWord : IsWord word) : runs word = [word] := by
  have read := runsFrom_of_letters isWord.letters [] []
  simpa [runs, runsFrom, isWord.notEmpty] using read

theorem IsGap.runs_append (isGap : IsGap gap) (rest : List Char) :
    runs (gap ++ rest) = runs rest := by
  induction gap with
  | nil => rfl
  | cons separator gap inductionHypothesis =>
      rw [isGap_cons] at isGap
      exact (runsFrom_append isGap.1 [] [] (gap ++ rest)).trans (inductionHypothesis isGap.2)

end Runs

/-- Words with the gaps behind them. Only the last gap may be empty. -/
inductive ArePieces : List (List Char × List Char) → Prop where
  | nil : ArePieces []
  | cons {word gap : List Char} {others : List (List Char × List Char)} (isWord : IsWord word)
      (isGap : IsGap gap) (apart : others ≠ [] → gap ≠ []) (further : ArePieces others) :
      ArePieces ((word, gap) :: others)

/-- The text that words and gaps make up. -/
def joined (pieces : List (List Char × List Char)) : List Char :=
  pieces.flatMap fun piece => piece.1 ++ piece.2

/-- A text cut into what comes before its first word and its words with the gaps behind them. -/
@[ext]
structure Cutting (text : List Char) where
  lead : List Char
  pieces : List (List Char × List Char)
  whole : lead ++ joined pieces = text
  isGap : IsGap lead
  arePieces : ArePieces pieces

section Pieces

variable {pieces others : List (List Char × List Char)}

@[simp]
theorem joined_cons (word gap : List Char) (others : List (List Char × List Char)) :
    joined ((word, gap) :: others) = word ++ (gap ++ joined others) := by
  simp [joined]

/-- Texts of one class are the same if what comes after them starts outside of the class. -/
theorem append_inj_of_class {choice : Char → Bool} {left right leftRest rightRest : List Char}
    (same : left ++ leftRest = right ++ rightRest) (leftIn : ∀ character ∈ left, choice character)
    (rightIn : ∀ character ∈ right, choice character) (leftEnds : leftRest.head?.any choice = false)
    (rightEnds : rightRest.head?.any choice = false) : left = right ∧ leftRest = rightRest := by
  have taken : ∀ {rest : List Char},
      rest.head?.any choice = false → rest.takeWhile choice = [] := by
    intro rest ends
    cases rest with
    | nil => rfl
    | cons character rest =>
        have outside : choice character = false := by simpa using ends
        simp [outside]
  have first := congrArg (List.takeWhile choice) same
  rw [List.takeWhile_append_of_pos leftIn, List.takeWhile_append_of_pos rightIn, taken leftEnds,
    taken rightEnds, List.append_nil, List.append_nil] at first
  subst first
  exact ⟨rfl, List.append_cancel_left same⟩

/-- The gap behind a word is the end of the text, or it starts with what separates words. -/
theorem IsGap.ends_or_separates (isGap : IsGap gap) (apart : pieces ≠ [] → gap ≠ []) :
    (gap = [] ∧ pieces = []) ∨ ∃ separator further,
      gap = separator :: further ∧ isWordChar separator = false ∧ IsGap further := by
  cases gap with
  | nil => exact Or.inl ⟨rfl, by simpa using apart⟩
  | cons separator further => exact Or.inr ⟨separator, further, rfl, isGap_cons.mp isGap⟩

theorem IsGap.startsInWord_append (isGap : IsGap gap) (apart : pieces ≠ [] → gap ≠ []) :
    startsInWord (gap ++ joined pieces) = false := by
  rcases isGap.ends_or_separates apart with ⟨rfl, rfl⟩ | ⟨separator, further, rfl, outside, _⟩
  · rfl
  · simpa [startsInWord] using outside

theorem ArePieces.head?_joined (arePieces : ArePieces pieces) :
    (joined pieces).head?.any (!isWordChar ·) = false := by
  cases arePieces with
  | nil => rfl
  | cons isWord isGap apart further =>
      rcases List.exists_cons_of_ne_nil isWord.notEmpty with ⟨first, word, rfl⟩
      simpa using isWord.letters first (by simp)

theorem ArePieces.isWord (arePieces : ArePieces pieces) : ∀ piece ∈ pieces, IsWord piece.1 := by
  induction arePieces with
  | nil => simp
  | cons isWord isGap apart further inductionHypothesis =>
      exact List.forall_mem_cons.mpr ⟨isWord, inductionHypothesis⟩

/-- The pieces of a text are known from the text. -/
theorem ArePieces.eq_of_joined (arePieces : ArePieces pieces) (otherwise : ArePieces others)
    (same : joined pieces = joined others) : pieces = others := by
  induction arePieces generalizing others with
  | nil =>
      cases otherwise with
      | nil => rfl
      | cons isWord isGap apart further => simp [joined, isWord.notEmpty] at same
  | cons isWord isGap apart further inductionHypothesis =>
      cases otherwise with
      | nil => simp [joined, isWord.notEmpty] at same
      | cons isWord' isGap' apart' further' =>
          rw [joined_cons, joined_cons] at same
          rcases append_inj_of_class same isWord.letters isWord'.letters
            (isGap.startsInWord_append apart) (isGap'.startsInWord_append apart') with
            ⟨rfl, sameRest⟩
          rcases append_inj_of_class sameRest (by simpa [IsGap] using isGap)
            (by simpa [IsGap] using isGap') further.head?_joined further'.head?_joined with
            ⟨rfl, sameOthers⟩
          rw [inductionHypothesis further' sameOthers]

theorem ArePieces.runs_joined (arePieces : ArePieces pieces) :
    runs (joined pieces) = pieces.map Prod.fst := by
  induction arePieces with
  | nil => rfl
  | @cons word gap others isWord isGap apart further inductionHypothesis =>
      rcases isGap.ends_or_separates apart with
        ⟨rfl, rfl⟩ | ⟨separator, gap, rfl, outside, isGap⟩
      · simp [joined, isWord.runs_eq]
      · have separated := runsFrom_append outside [] word (gap ++ joined others)
        rw [isGap.runs_append, inductionHypothesis] at separated
        rw [joined_cons, List.cons_append, runs, separated]
        exact congrArg (· ++ _) isWord.runs_eq

end Pieces

section Occurrences

variable {pieces : List (List Char × List Char)} {before : Option Char}

/-- What is looked for between words: runs of word characters from edge to edge. -/
def wordPattern : Pattern :=
  .wholeWord (.run isWordChar)

theorem occurrencesAfter_length (pattern : Pattern) (read rest : List Char) (before : Option Char) :
    pattern.occurrencesAfter read.length before (read ++ rest) =
      pattern.occurrencesAfter 0 (read.getLast?.or before) rest := by
  induction read generalizing before with
  | nil => simp
  | cons character read inductionHypothesis =>
      rw [Pattern.getLast?_cons_or, ← inductionHypothesis]
      rfl

theorem IsGap.occurrencesAfter (isGap : IsGap gap) (before : Option Char) (rest : List Char) :
    wordPattern.occurrencesAfter 0 before (gap ++ rest) =
      wordPattern.occurrencesAfter 0 (gap.getLast?.or before) rest := by
  induction gap generalizing before with
  | nil => simp
  | cons separator gap inductionHypothesis =>
      rw [isGap_cons] at isGap
      have outside : startsInWord (separator :: (gap ++ rest)) = false := by
        simpa [startsInWord] using isGap.1
      rw [Pattern.getLast?_cons_or, ← inductionHypothesis isGap.2, List.cons_append,
        Pattern.occurrencesAfter, wordPattern, Pattern.reads_wholeWord_run_outside outside]
      rfl

theorem IsWord.occurrencesAfter (isWord : IsWord word) (ends : startsInWord rest = false)
    (begins : before.any isWordChar = false) :
    wordPattern.occurrencesAfter 0 before (word ++ rest) =
      word :: wordPattern.occurrencesAfter 0 word.getLast? rest := by
  have read := Pattern.reads_wholeWord_run isWord ends begins
  rcases List.exists_cons_of_ne_nil isWord.notEmpty with ⟨first, others, rfl⟩
  have claimed := occurrencesAfter_length wordPattern others rest (some first)
  rw [← Pattern.getLast?_cons_or none, Option.or_none] at claimed
  rw [← claimed, List.cons_append, Pattern.occurrencesAfter, wordPattern, ← List.cons_append, read]
  rfl

theorem ArePieces.occurrencesAfter (arePieces : ArePieces pieces)
    (begins : before.any isWordChar = false) :
    wordPattern.occurrencesAfter 0 before (joined pieces) = pieces.map Prod.fst := by
  induction arePieces generalizing before with
  | nil => rfl
  | @cons word gap others isWord isGap apart further inductionHypothesis =>
      rw [joined_cons, isWord.occurrencesAfter (isGap.startsInWord_append apart) begins,
        isGap.occurrencesAfter]
      rcases isGap.ends_or_separates apart with ⟨rfl, rfl⟩ | ⟨separator, gap, rfl, _, _⟩
      · rfl
      · have last := isGap _ (List.getLast_mem (List.cons_ne_nil separator gap))
        rw [inductionHypothesis]
        · rfl
        · simp [List.getLast?_eq_some_getLast, last]

end Occurrences

theorem exists_cutting (text : List Char) : Nonempty (Cutting text) := by
  induction text with
  | nil => exact ⟨⟨[], [], rfl, by simp [IsGap], .nil⟩⟩
  | cons character text inductionHypothesis =>
      rcases inductionHypothesis with ⟨lead, pieces, rfl, isGap, arePieces⟩
      cases letter : isWordChar character with
      | false =>
          have longer : IsGap (character :: lead) := isGap_cons.mpr ⟨letter, isGap⟩
          exact ⟨⟨character :: lead, pieces, rfl, longer, arePieces⟩⟩
      | true =>
          have alone : IsWord [character] := ⟨by simp, by simpa using letter⟩
          -- The character starts a word of its own, unless it stands right before one.
          by_cases apart : pieces ≠ [] → lead ≠ []
          · exact ⟨⟨[], ([character], lead) :: pieces, by simp, by simp [IsGap],
              .cons alone isGap apart arePieces⟩⟩
          · cases arePieces with
            | nil => simp at apart
            | @cons word gap others isWord isGap' apart' further =>
                obtain rfl : lead = [] := by simpa using apart
                have longer : IsWord (character :: word) :=
                  ⟨by simp, List.forall_mem_cons.mpr ⟨letter, isWord.letters⟩⟩
                exact ⟨⟨[], (character :: word, gap) :: others, by simp, isGap,
                  .cons longer isGap' apart' further⟩⟩

namespace Cutting

variable {text : List Char}

theorem eq (cutting other : Cutting text) : other = cutting := by
  have same := other.whole.trans cutting.whole.symm
  rcases append_inj_of_class same (by simpa [IsGap] using other.isGap)
    (by simpa [IsGap] using cutting.isGap) other.arePieces.head?_joined
    cutting.arePieces.head?_joined with ⟨sameLead, samePieces⟩
  exact Cutting.ext sameLead (other.arePieces.eq_of_joined cutting.arePieces samePieces)

theorem runs_eq (cutting : Cutting text) : runs text = cutting.pieces.map Prod.fst := by
  rcases cutting with ⟨lead, pieces, rfl, isGap, arePieces⟩
  rw [isGap.runs_append, arePieces.runs_joined]

theorem occurrences_eq (cutting : Cutting text) :
    wordPattern.occurrences text = cutting.pieces.map Prod.fst := by
  rcases cutting with ⟨lead, pieces, rfl, isGap, arePieces⟩
  have begins : (lead.getLast?.or none).any isWordChar = false := by
    cases last : lead.getLast? with
    | none => rfl
    | some separator => simpa using isGap separator (List.mem_of_getLast? last)
  rw [Pattern.occurrences, isGap.occurrencesAfter, arePieces.occurrencesAfter begins]

theorem isWord_of_mem_runs (cutting : Cutting text) {word : List Char}
    (word_mem : word ∈ runs text) : IsWord word := by
  rw [cutting.runs_eq] at word_mem
  rcases List.mem_map.mp word_mem with ⟨piece, piece_mem, rfl⟩
  exact cutting.arePieces.isWord piece piece_mem

end Cutting

theorem runs_intercalate {parts : List (List Char)} (areWords : ∀ part ∈ parts, IsWord part) :
    runs ([' '].intercalate parts) = parts := by
  induction parts with
  | nil => rfl
  | cons part parts inductionHypothesis =>
      rw [List.forall_mem_cons] at areWords
      cases parts with
      | nil => simpa using areWords.1.runs_eq
      | cons next parts =>
          have separated := runsFrom_append (show isWordChar ' ' = false by decide) [] part
            ([' '].intercalate (next :: parts))
          rw [inductionHypothesis areWords.2] at separated
          rw [List.intercalate_cons_cons, List.append_assoc, List.singleton_append, runs, separated]
          exact congrArg (· ++ _) areWords.1.runs_eq

/-- Words with spaces between them are the words of the text that they make up. -/
theorem words_intercalate {parts : List String} (areWords : ∀ part ∈ parts, IsWord part.toList) :
    words (" ".intercalate parts) = parts := by
  have read := runs_intercalate (List.forall_mem_map.mpr areWords)
  rw [words, String.toList_intercalate]
  refine (congrArg (List.map String.ofList) read).trans ?_
  simp [Function.comp_def]

/-- A text falls apart into words and gaps in one way only, and its words are those of this cutting;
a search for runs of word characters from edge to edge finds the same. The words hold the word
characters of the text and nothing else. Whatever is no word character separates the words before it
from those behind it, so that words with spaces between them are found again. -/
theorem words_cut_uniquely (text : String) :
    (∃ cutting : Cutting text.toList, (∀ other, other = cutting) ∧
        (words text).map String.toList = cutting.pieces.map Prod.fst) ∧
      wordPattern.occurrences text.toList = (words text).map String.toList ∧
      ((words text).map String.toList).flatten = text.toList.filter isWordChar ∧
      (∀ separator right, isWordChar separator = false →
        words (text ++ String.singleton separator ++ right) = words text ++ words right) ∧
      words (" ".intercalate (words text)) = words text := by
  rcases exists_cutting text.toList with ⟨cutting⟩
  have listed : (words text).map String.toList = runs text.toList := by
    simp [words, Function.comp_def]
  refine ⟨⟨cutting, cutting.eq, ?_⟩, ?_, flatten_words text, ?_, ?_⟩
  · rw [listed, cutting.runs_eq]
  · rw [listed, cutting.runs_eq, cutting.occurrences_eq]
  · intro separator right apart
    have separated := runsFrom_append apart [] text.toList right.toList
    simp [words, runs, separated]
  · apply words_intercalate
    intro word word_mem
    apply cutting.isWord_of_mem_runs
    rw [← listed]
    exact List.mem_map_of_mem word_mem

end SentenceGraph.Text
