import Mathlib.Data.List.Basic
import SentenceGraph.Text.WholeWord

/-!
# Patterns of running text

What is looked for in a text is a pattern: a spelling, a run of characters, an edge of a word, and
what these make up in sequence or as alternatives. A pattern may be read in several ways at a place,
and they are listed with the preferred one first. A search goes through the places of the text from
left to right.

The text layer does not search for patterns. It looks for keywords and collects runs, and both are
shown to find what the search for a pattern finds: a keyword between edges of words is a whole word,
however the spellings are put together, and a run between edges is never a part of a longer one.
-/

namespace SentenceGraph.Text

/-- What is looked for in a text. -/
inductive Pattern where
  | spelled (spelling : String)
  /-- Members of a class, one or more, and rather more than less. -/
  | run (choice : Char → Bool)
  /-- The start of the text. -/
  | start
  /-- A place with a word character on one side only. -/
  | edge
  | sequence (first second : Pattern)
  /-- The first pattern rather than the second. -/
  | either (first second : Pattern)
  /-- The pattern rather than nothing. -/
  | optional (inner : Pattern)

/-- A text that is a word: one or more word characters and nothing else. -/
structure IsWord (characters : List Char) : Prop where
  notEmpty : characters ≠ []
  letters : ∀ character ∈ characters, isWordChar character = true

theorem isWord_iff {characters : List Char} :
    IsWord characters ↔ (!characters.isEmpty && characters.all isWordChar) = true := by
  simp only [Bool.and_eq_true, Bool.not_eq_true', List.isEmpty_eq_false_iff, List.all_eq_true]
  exact ⟨fun isWord => ⟨isWord.notEmpty, isWord.letters⟩, fun both => ⟨both.1, both.2⟩⟩

instance (characters : List Char) : Decidable (IsWord characters) :=
  decidable_of_iff _ isWord_iff.symm

/-- Whether a text starts with a word character. -/
def startsInWord (characters : List Char) : Bool :=
  characters.head?.any isWordChar

section Words

variable {after word : List Char}

theorem IsWord.startsInWord_append (isWord : IsWord word) (rest : List Char) :
    startsInWord (word ++ rest) = true := by
  rcases List.exists_cons_of_ne_nil isWord.notEmpty with ⟨first, others, rfl⟩
  simpa [startsInWord] using isWord.letters first (by simp)

theorem IsWord.any_getLast? (isWord : IsWord word) (before : Option Char) :
    (word.getLast?.or before).any isWordChar = true := by
  have last := isWord.letters _ (List.getLast_mem isWord.notEmpty)
  simp [List.getLast?_eq_some_getLast isWord.notEmpty, last]

theorem startsWithWord_eq :
    startsWithWord word after =
      (word.isPrefixOf after && !startsInWord (after.drop word.length)) := by
  rw [startsWithWord]
  cases after.drop word.length with
  | nil => rfl
  | cons next after => rfl

theorem startsInWord_of_startsWithWord (isWord : IsWord word)
    (starts : startsWithWord word after = true) : startsInWord after = true := by
  simp only [startsWithWord_eq, Bool.and_eq_true, List.isPrefixOf_iff_prefix] at starts
  rcases starts with ⟨⟨rest, rfl⟩, _⟩
  exact isWord.startsInWord_append rest

end Words

namespace Pattern

/-- The runs that start a text, the longest one first. -/
def runsOf (choice : Char → Bool) : List Char → List (List Char)
  | [] => []
  | character :: rest =>
      if choice character then (runsOf choice rest).map (character :: ·) ++ [[character]] else []

/-- The texts that a pattern reads behind a character, or at the start, of what comes after it. -/
def reads (pattern : Pattern) (before : Option Char) (after : List Char) : List (List Char) :=
  match pattern with
  | spelled spelling => if spelling.toList.isPrefixOf after then [spelling.toList] else []
  | run choice => runsOf choice after
  | start => if before.isNone then [[]] else []
  | edge => if before.any isWordChar != startsInWord after then [[]] else []
  | sequence first second =>
      (first.reads before after).flatMap fun beginning =>
        (second.reads (beginning.getLast?.or before) (after.drop beginning.length)).map
          (beginning ++ ·)
  | either first second => first.reads before after ++ second.reads before after
  | optional inner => inner.reads before after ++ [[]]

/-- Whether a pattern can be read somewhere in the rest of a text. -/
def occursAfter (pattern : Pattern) (before : Option Char) : List Char → Bool
  | [] => !(pattern.reads before []).isEmpty
  | character :: rest =>
      !(pattern.reads before (character :: rest)).isEmpty ||
        pattern.occursAfter (some character) rest

/-- Whether a pattern can be read somewhere in a text. -/
def occurs (pattern : Pattern) (text : List Char) : Bool :=
  pattern.occursAfter none text

/-- The occurrences of a pattern in the rest of a text, from left to right. No two of them overlap,
and none is empty; `claimed` more characters belong to the one before. -/
def occurrencesAfter (pattern : Pattern) (claimed : Nat) (before : Option Char) :
    List Char → List (List Char)
  | [] => []
  | character :: rest =>
      match claimed with
      | claimed + 1 => pattern.occurrencesAfter claimed (some character) rest
      | 0 =>
          match (pattern.reads before (character :: rest)).find? (!·.isEmpty) with
          | some read => read :: pattern.occurrencesAfter (read.length - 1) (some character) rest
          | none => pattern.occurrencesAfter 0 (some character) rest

/-- The occurrences of a pattern in a text. -/
def occurrences (pattern : Pattern) (text : List Char) : List (List Char) :=
  pattern.occurrencesAfter 0 none text

/-- A pattern between two edges of words. -/
def wholeWord (inner : Pattern) : Pattern :=
  .sequence .edge (.sequence inner .edge)

/-- A pattern from the start of a text to an edge of a word. -/
def firstWord (inner : Pattern) : Pattern :=
  .sequence .start (.sequence inner .edge)

/-- Whether a pattern looks at nothing but what it reads, and has finitely many spellings. -/
def isPlain : Pattern → Bool
  | spelled _ => true
  | run _ | start | edge => false
  | sequence first second | either first second => first.isPlain && second.isPlain
  | optional inner => inner.isPlain

/-- The spellings of a plain pattern. -/
def spellings : Pattern → List (List Char)
  | spelled spelling => [spelling.toList]
  | run _ | start | edge => []
  | sequence first second =>
      first.spellings.flatMap fun beginning => second.spellings.map (beginning ++ ·)
  | either first second => first.spellings ++ second.spellings
  | optional inner => inner.spellings ++ [[]]

variable {pattern : Pattern} {before : Option Char} {after word rest : List Char}

section Spellings

theorem isPrefixOf_append (beginning ending : List Char) :
    (beginning ++ ending).isPrefixOf after =
      (beginning.isPrefixOf after && ending.isPrefixOf (after.drop beginning.length)) := by
  induction beginning generalizing after with
  | nil => simp
  | cons character beginning inductionHypothesis =>
      cases after with
      | nil => simp
      | cons next after => simp [List.isPrefixOf_cons_cons, inductionHypothesis, Bool.and_assoc]

/-- A plain pattern reads its spellings, where the text goes on with them. -/
theorem reads_plain (plain : pattern.isPlain = true) :
    pattern.reads before after = pattern.spellings.filter (·.isPrefixOf after) := by
  induction pattern generalizing before after with
  | spelled spelling => simp [reads, spellings, List.filter_singleton]
  | run | start | edge => simp [isPlain] at plain
  | sequence first second firstHypothesis secondHypothesis =>
      rw [isPlain, Bool.and_eq_true] at plain
      simp only [reads, spellings, firstHypothesis plain.1, secondHypothesis plain.2,
        List.filter_flatMap, List.filter_map]
      induction first.spellings with
      | nil => rfl
      | cons beginning others inductionHypothesis =>
          by_cases fits : beginning.isPrefixOf after = true
          · simp [fits, isPrefixOf_append, Function.comp_def, inductionHypothesis]
          · simp [fits, isPrefixOf_append, Function.comp_def, inductionHypothesis]
  | either first second firstHypothesis secondHypothesis =>
      rw [isPlain, Bool.and_eq_true] at plain
      simp [reads, spellings, firstHypothesis plain.1, secondHypothesis plain.2]
  | optional inner inductionHypothesis =>
      simp [reads, spellings, inductionHypothesis plain]

end Spellings

section Edges

theorem reads_edge_sequence :
    (sequence .edge pattern).reads before after =
      if before.any isWordChar != startsInWord after then pattern.reads before after else [] := by
  simp only [reads]
  split
  · simp
  · simp

theorem reads_start_sequence :
    (sequence .start pattern).reads before after =
      if before.isNone then pattern.reads before after else [] := by
  simp only [reads]
  split
  · simp
  · simp

variable (plain : pattern.isPlain = true)
  (areWords : ∀ spelling ∈ pattern.spellings, IsWord spelling)

include plain areWords

/-- The edge behind a word that was read is the end of that word. -/
theorem reads_sequence_edge :
    (sequence pattern .edge).reads before after =
      pattern.spellings.filter (startsWithWord · after) := by
  simp only [reads, reads_plain plain]
  generalize pattern.spellings = spellings at areWords
  induction spellings with
  | nil => rfl
  | cons spelling others inductionHypothesis =>
      rw [List.forall_mem_cons] at areWords
      have further := inductionHypothesis areWords.2
      have inWord := areWords.1.any_getLast? before
      by_cases fits : spelling.isPrefixOf after = true
      · by_cases goesOn : startsInWord (after.drop spelling.length) = true
        · simp_all [startsWithWord_eq]
        · simp_all [startsWithWord_eq]
      · simp_all [startsWithWord_eq]

theorem isEmpty_reads_wholeWord :
    ((wholeWord pattern).reads before after).isEmpty =
      !(!before.any isWordChar && pattern.spellings.any (startsWithWord · after)) := by
  rw [wholeWord, reads_edge_sequence, reads_sequence_edge plain areWords]
  by_cases found : pattern.spellings.any (startsWithWord · after) = true
  · have inWord : startsInWord after = true := by
      rcases List.any_eq_true.mp found with ⟨spelling, spelling_mem, starts⟩
      exact startsInWord_of_startsWithWord (areWords spelling spelling_mem) starts
    have some : (pattern.spellings.filter (startsWithWord · after)).isEmpty = false := by
      simpa using found
    cases before.any isWordChar with
    | false => simp [found, inWord, some]
    | true => simp [inWord]
  · have none : pattern.spellings.filter (startsWithWord · after) = [] := by
      simpa using found
    simp [found, none]

/-- A search for whole words finds what is found by looking for one spelling after the other. -/
theorem occursAfter_wholeWord :
    (wholeWord pattern).occursAfter before after =
      pattern.spellings.any (occursFrom · (before.any isWordChar) after) := by
  rw [Bool.eq_iff_iff]
  induction after generalizing before with
  | nil =>
      simp only [occursAfter, occursFrom, isEmpty_reads_wholeWord plain areWords, Bool.not_not,
        Bool.and_eq_true, List.any_eq_true]
      constructor
      · rintro ⟨outside, spelling, spelling_mem, starts⟩
        exact ⟨spelling, spelling_mem, outside, starts⟩
      · rintro ⟨spelling, spelling_mem, outside, starts⟩
        exact ⟨outside, spelling, spelling_mem, starts⟩
  | cons character after inductionHypothesis =>
      simp only [occursAfter, occursFrom, isEmpty_reads_wholeWord plain areWords, Bool.not_not,
        Bool.or_eq_true, Bool.and_eq_true, inductionHypothesis, List.any_eq_true,
        Option.any_some]
      constructor
      · rintro (⟨outside, spelling, spelling_mem, starts⟩ | ⟨spelling, spelling_mem, occurs⟩)
        · exact ⟨spelling, spelling_mem, Or.inl ⟨outside, starts⟩⟩
        · exact ⟨spelling, spelling_mem, Or.inr occurs⟩
      · rintro ⟨spelling, spelling_mem, ⟨outside, starts⟩ | occurs⟩
        · exact Or.inl ⟨outside, spelling, spelling_mem, starts⟩
        · exact Or.inr ⟨spelling, spelling_mem, occurs⟩

omit plain areWords in
theorem occursAfter_firstWord_some (character : Char) :
    (firstWord pattern).occursAfter (some character) after = false := by
  induction after generalizing character with
  | nil => simp [occursAfter, firstWord, reads_start_sequence]
  | cons next after inductionHypothesis =>
      rw [occursAfter, inductionHypothesis, firstWord, reads_start_sequence]
      rfl

theorem occurs_firstWord :
    (firstWord pattern).occurs after = pattern.spellings.any (startsWithWord · after) := by
  have here : (!((firstWord pattern).reads none after).isEmpty) =
      pattern.spellings.any (startsWithWord · after) := by
    rw [firstWord, reads_start_sequence, reads_sequence_edge plain areWords, Bool.eq_iff_iff]
    simp
  cases after with
  | nil => exact here
  | cons character after =>
      rw [occurs, occursAfter, occursAfter_firstWord_some, Bool.or_false]
      exact here

end Edges

section Alternatives

theorem occursAfter_either (first second : Pattern) :
    (either first second).occursAfter before after =
      (first.occursAfter before after || second.occursAfter before after) := by
  induction after generalizing before with
  | nil =>
      simp only [occursAfter, reads]
      cases first.reads before [] <;> simp
  | cons character after inductionHypothesis =>
      simp only [occursAfter, reads, inductionHypothesis]
      cases first.reads before (character :: after) with
      | nil => simp [Bool.or_left_comm]
      | cons read others => simp

theorem occursAfter_spelled_singleton (symbol : Char) :
    (spelled (String.singleton symbol)).occursAfter before after = after.contains symbol := by
  induction after generalizing before with
  | nil => simp [occursAfter, reads]
  | cons character after inductionHypothesis =>
      by_cases same : symbol = character
      · simp [occursAfter, reads, same]
      · simp [occursAfter, reads, inductionHypothesis, same]

end Alternatives

section Runs

theorem runsOf_eq_nil (outside : startsInWord after = false) : runsOf isWordChar after = [] := by
  cases after with
  | nil => rfl
  | cons character after => simpa [runsOf, startsInWord] using outside

theorem getLast?_cons_or (before : Option Char) (first : Char) (others : List Char) :
    (first :: others).getLast?.or before = others.getLast?.or (some first) := by
  cases ends : others.getLast? <;> simp [List.getLast?_cons, ends]

/-- Of the runs that start a text, only the longest ends at an edge of a word. -/
theorem reads_run_edge (isWord : IsWord word) (ends : startsInWord rest = false)
    (before : Option Char) :
    (sequence (run isWordChar) edge).reads before (word ++ rest) = [word] := by
  rcases isWord with ⟨notEmpty, letters⟩
  induction word generalizing before with
  | nil => contradiction
  | cons first others inductionHypothesis =>
      rw [List.forall_mem_cons] at letters
      cases others with
      | nil =>
          have last : runsOf isWordChar rest = [] := runsOf_eq_nil ends
          simp [reads, runsOf, letters.1, last, ends]
      | cons second others =>
          have shorter := inductionHypothesis (some first) (by simp) letters.2
          have goesOn : startsInWord (second :: others ++ rest) = true := by
            simpa [startsInWord] using letters.2 second (by simp)
          change (sequence (run isWordChar) edge).reads before
            (first :: (second :: others ++ rest)) = [first :: second :: others]
          generalize second :: others ++ rest = after at shorter goesOn ⊢
          -- The runs are those of the rest, one character longer, and the first character alone.
          have longer := congrArg (List.map (first :: ·)) shorter
          simp only [reads, List.map_flatMap, List.map_map] at longer
          simp only [reads, runsOf, letters.1, if_true, List.flatMap_append, List.flatMap_map,
            getLast?_cons_or, List.length_cons, List.drop_succ_cons]
          refine (congrArg (· ++ _) longer).trans ?_
          simp [letters.1, goesOn]

theorem reads_wholeWord_run (isWord : IsWord word) (ends : startsInWord rest = false)
    (begins : before.any isWordChar = false) :
    (wholeWord (run isWordChar)).reads before (word ++ rest) = [word] := by
  rw [wholeWord, reads_edge_sequence, begins, isWord.startsInWord_append,
    reads_run_edge isWord ends]
  rfl

theorem reads_wholeWord_run_outside (outside : startsInWord after = false) :
    (wholeWord (run isWordChar)).reads before after = [] := by
  simp [wholeWord, reads, runsOf_eq_nil outside]

end Runs

end Pattern

end SentenceGraph.Text
