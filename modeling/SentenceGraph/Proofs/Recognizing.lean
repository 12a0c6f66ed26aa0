import Mathlib.Data.List.Forall2
import SentenceGraph.Intent
import SentenceGraph.Proofs.Keywords
import SentenceGraph.Tagging

/-!
# Sentences recognized by their words

The rules of classification are searches: they look for patterns in the running text of a sentence,
and the first one that finds something decides. Where the tokens of the sentence are words, the
rules come down to a table of words: each looks for one of some words among the tokens or at their
head. No rule is triggered inside a token or across two of them, and the symbols of the operations,
which are in no word, trigger none.
-/

namespace SentenceGraph.Intent

open Text (IsWord Pattern)

variable {R Subject Reading : Type}

/-- A rule of classification: what it applies to, and the intent that it gives. -/
structure Rule (Subject R : Type) where
  applies : Subject → Bool
  intent : Subject → Intent R

/-- Two rules that do the same with two readings of a sentence. -/
structure Rule.Agree (subject : Subject) (reading : Reading) (rule : Rule Subject R)
    (other : Rule Reading R) : Prop where
  applies : rule.applies subject = other.applies reading
  intent : rule.applies subject = true → rule.intent subject = other.intent reading

variable [Quantity R]

/-- The intent that the first of the rules gives that applies. -/
def firstMatch : List (Rule Subject R) → Subject → Intent R
  | [], _ => unknown
  | rule :: rules, subject =>
      if rule.applies subject then rule.intent subject else firstMatch rules subject

/-- Rules that agree one by one classify alike. -/
theorem firstMatch_congr {rules : List (Rule Subject R)} {others : List (Rule Reading R)}
    {subject : Subject} {reading : Reading}
    (agree : List.Forall₂ (Rule.Agree subject reading) rules others) :
    firstMatch rules subject = firstMatch others reading := by
  induction agree with
  | nil => rfl
  | cons same further inductionHypothesis =>
      rw [firstMatch, firstMatch, inductionHypothesis, ← same.applies]
      split
      · rename_i applies
        exact same.intent applies
      · rfl

section Searches

variable (words : Pattern)

/-- Looks for a digit and for words or a symbol of an operation. -/
def arithmeticSearch (operation : String) (symbol : Char) : Rule (List Char) R where
  applies text := text.any Text.isDecimalDigit &&
    (Pattern.either (.wholeWord words) (.spelled (String.singleton symbol))).occurs text
  intent _ := arithmetic operation

/-- Looks for words at the start of a text. -/
def openingSearch (intent : String → Intent R) : Rule (List Char) R where
  applies text := (Pattern.firstWord words).occurs text
  intent text := intent (String.ofList (text.takeWhile (· != ' ')))

/-- Looks for words in a text. -/
def mentionSearch (intent : Intent R) : Rule (List Char) R where
  applies text := (Pattern.wholeWord words).occurs text
  intent _ := intent

omit words

/-- One of some spellings. -/
def oneOf (first : String) : List String → Pattern
  | [] => .spelled first
  | second :: others => .either (.spelled first) (oneOf second others)

/-- A stem with one of some endings or none. -/
def withEndings (stem first : String) (others : List String) : Pattern :=
  .sequence (.spelled stem) (.optional (oneOf first others))

def additionPattern : Pattern :=
  .either (withEndings "add" "s" ["ed", "ing"]) (oneOf "sum" ["plus"])

def subtractionPattern : Pattern :=
  .either (withEndings "subtract" "s" ["ed", "ing"]) (.spelled "minus")

def multiplicationPattern : Pattern :=
  .either (.sequence (.spelled "multipl") (oneOf "y" ["ies", "ied", "ying"])) (.spelled "times")

def divisionPattern : Pattern :=
  .either (withEndings "divide" "s" ["d"]) (.spelled "dividing")

/-- The rules as searches in running text, in the order in which they are tried. -/
def searches : List (Rule (List Char) R) :=
  [arithmeticSearch additionPattern "addition" '+',
    arithmeticSearch subtractionPattern "subtraction" '-',
    arithmeticSearch multiplicationPattern "multiplication" '*',
    arithmeticSearch divisionPattern "division" '/',
    openingSearch (oneOf "what" ["who", "where", "when", "why", "how", "which"]) question,
    openingSearch (oneOf "create" ["make", "build", "generate", "write", "develop"])
      fun _ => command,
    mentionSearch (oneOf "is" ["are", "am", "was", "were"]) statement]

end Searches

section Tables

variable (keywords : List String)

/-- Wants a digit in some word, and one of the keywords among the words. -/
def arithmeticLine (operation : String) : Rule (List String) R where
  applies words :=
    words.any (fun word => word.toList.any Text.isDecimalDigit) && words.any keywords.contains
  intent _ := arithmetic operation

/-- Wants one of the keywords as the first word, which the intent may tell. -/
def openingLine (intent : String → Intent R) : Rule (List String) R where
  applies words := words.head?.any keywords.contains
  intent words := intent (words.head?.getD "")

/-- Wants one of the keywords among the words. -/
def mentionLine (intent : Intent R) : Rule (List String) R where
  applies words := words.any keywords.contains
  intent _ := intent

omit keywords

/-- The rules as a table of words. -/
def wordTable : List (Rule (List String) R) :=
  [arithmeticLine ["add", "adds", "added", "adding", "sum", "plus"] "addition",
    arithmeticLine ["subtract", "subtracts", "subtracted", "subtracting", "minus"] "subtraction",
    arithmeticLine ["multiply", "multiplies", "multiplied", "multiplying", "times"]
      "multiplication",
    arithmeticLine ["divide", "divides", "divided", "dividing"] "division",
    openingLine ["what", "who", "where", "when", "why", "how", "which"] question,
    openingLine ["create", "make", "build", "generate", "write", "develop"] fun _ => command,
    mentionLine ["is", "are", "am", "was", "were"] statement]

end Tables

section Keywords

/-- Looks for a digit and for a keyword or the symbol of an operation. -/
def operationRule (operation : Operation) : Rule (List Char) R where
  applies text := text.any Text.isDecimalDigit && operation.isCalledFor text
  intent _ := arithmetic operation.name

/-- Looks for keywords at the start of a text. -/
def openingRule (keywords : List String) (intent : String → Intent R) : Rule (List Char) R where
  applies text := Text.startsWithAnyWord text keywords
  intent text := intent (String.ofList (text.takeWhile (· != ' ')))

/-- Looks for keywords in a text. -/
def mentionRule (keywords : List String) (intent : Intent R) : Rule (List Char) R where
  applies text := Text.hasAnyWord text keywords
  intent _ := intent

/-- The rules as searches for one keyword after the other. -/
def keywordRules : List (Rule (List Char) R) :=
  operations.map operationRule ++
    [openingRule questionWords question, openingRule commandWords fun _ => command,
      mentionRule copulaWords statement]

variable (text : List Char)

theorem firstMatch_operations (operations : List Operation) (others : List (Rule (List Char) R)) :
    firstMatch (operations.map operationRule ++ others) text =
      match
        if text.any Text.isDecimalDigit then operations.find? (·.isCalledFor text) else none
      with
      | some operation => arithmetic operation.name
      | none => firstMatch others text := by
  induction operations with
  | nil => simp
  | cons operation operations inductionHypothesis =>
      rw [List.map_cons, List.cons_append, firstMatch, inductionHypothesis]
      cases digit : text.any Text.isDecimalDigit with
      | false => simp [operationRule, digit]
      | true =>
          cases called : operation.isCalledFor text with
          | false => simp [operationRule, digit, called]
          | true => simp [operationRule, digit, called]

/-- A text has the intent of the first rule that applies. -/
theorem ofChars_eq_firstMatch : (ofChars text : Intent R) = firstMatch keywordRules text := by
  rw [keywordRules, firstMatch_operations]
  rfl

end Keywords

section Spellings

theorem isPlain_oneOf (first : String) (others : List String) :
    (oneOf first others).isPlain = true := by
  induction others generalizing first with
  | nil => rfl
  | cons second others inductionHypothesis => simp [oneOf, Pattern.isPlain, inductionHypothesis]

theorem spellings_oneOf (first : String) (others : List String) :
    (oneOf first others).spellings = (first :: others).map String.toList := by
  induction others generalizing first with
  | nil => rfl
  | cons second others inductionHypothesis =>
      simp [oneOf, Pattern.spellings, inductionHypothesis]

theorem spells_oneOf {first : String} {others : List String}
    (areWords : ∀ keyword ∈ first :: others, IsWord keyword.toList) :
    (oneOf first others).Spells (first :: others) :=
  ⟨isPlain_oneOf first others, .of_eq (spellings_oneOf first others), areWords⟩

theorem operations_spelled :
    List.Forall₂ (fun operation pattern => Pattern.Spells pattern operation.keywords) operations
      [additionPattern, subtractionPattern, multiplicationPattern, divisionPattern] := by
  refine .cons ?_ (.cons ?_ (.cons ?_ (.cons ?_ .nil)))
  · exact ⟨rfl, by decide +kernel, by decide +kernel⟩
  · exact ⟨rfl, by decide +kernel, by decide +kernel⟩
  · exact ⟨rfl, by decide +kernel, by decide +kernel⟩
  · exact ⟨rfl, by decide +kernel, by decide +kernel⟩

end Spellings

section Agreement

omit [Quantity R] in
theorem Rule.Agree.trans {Other : Type} {subject : Subject} {reading : Reading} {last : Other}
    {rule : Rule Subject R} {between : Rule Reading R} {other : Rule Other R}
    (first : Rule.Agree subject reading rule between)
    (second : Rule.Agree reading last between other) : Rule.Agree subject last rule other := by
  refine ⟨first.applies.trans second.applies, ?_⟩
  intro applies
  exact (first.intent applies).trans (second.intent (first.applies ▸ applies))

omit [Quantity R] in
theorem agree_trans {Other : Type} {subject : Subject} {reading : Reading} {last : Other}
    {rules : List (Rule Subject R)} {between : List (Rule Reading R)}
    {others : List (Rule Other R)}
    (first : List.Forall₂ (Rule.Agree subject reading) rules between)
    (second : List.Forall₂ (Rule.Agree reading last) between others) :
    List.Forall₂ (Rule.Agree subject last) rules others := by
  induction first generalizing others with
  | nil =>
      cases second
      exact .nil
  | cons same further inductionHypothesis =>
      cases second with
      | cons same' further' => exact .cons (same.trans same') (inductionHypothesis further')

variable (text : List Char)

theorem arithmeticSearch_agree {words : Pattern} {keywords : List String}
    (spells : words.Spells keywords) (name : String) (symbol : Char) :
    Rule.Agree text text (arithmeticSearch words name symbol : Rule (List Char) R)
      (operationRule ⟨name, keywords, symbol⟩) := by
  refine ⟨?_, fun _ => rfl⟩
  have found := spells.occurs_wholeWord text
  rw [Pattern.occurs] at found
  simp only [arithmeticSearch, operationRule, Pattern.occurs, Pattern.occursAfter_either, found,
    Pattern.occursAfter_spelled_singleton, Operation.isCalledFor]

omit [Quantity R] in
theorem openingSearch_agree {words : Pattern} {keywords : List String}
    (spells : words.Spells keywords) (intent : String → Intent R) :
    Rule.Agree text text (openingSearch words intent) (openingRule keywords intent) :=
  ⟨spells.occurs_firstWord text, fun _ => rfl⟩

omit [Quantity R] in
theorem mentionSearch_agree {words : Pattern} {keywords : List String}
    (spells : words.Spells keywords) (intent : Intent R) :
    Rule.Agree text text (mentionSearch words intent) (mentionRule keywords intent) :=
  ⟨spells.occurs_wholeWord text, fun _ => rfl⟩

/-- The searches find what is found by looking for one keyword after the other. -/
theorem searches_agree :
    List.Forall₂ (Rule.Agree text text) (searches (R := R)) keywordRules := by
  rcases operations_spelled with
    _ | ⟨addition, _ | ⟨subtraction, _ | ⟨multiplication, _ | ⟨division, _⟩⟩⟩⟩
  refine .cons ?_ (.cons ?_ (.cons ?_ (.cons ?_ (.cons ?_ (.cons ?_ (.cons ?_ .nil))))))
  · exact arithmeticSearch_agree text addition _ _
  · exact arithmeticSearch_agree text subtraction _ _
  · exact arithmeticSearch_agree text multiplication _ _
  · exact arithmeticSearch_agree text division _ _
  · exact openingSearch_agree text (spells_oneOf (by decide +kernel)) question
  · exact openingSearch_agree text (spells_oneOf (by decide +kernel)) fun _ => command
  · exact mentionSearch_agree text (spells_oneOf (by decide +kernel)) statement

end Agreement

section Words

variable {words : List String} (areWords : ∀ word ∈ words, IsWord word.toList)

include areWords

/-- Words with spaces between them have nothing but word characters and spaces. -/
theorem contains_intercalate {symbol : Char} (noLetter : Text.isWordChar symbol = false)
    (noSpace : symbol ≠ ' ') : (" ".intercalate words).toList.contains symbol = false := by
  have apart : (symbol == ' ') = false := by simpa using noSpace
  have joined : (" ".intercalate words).toList = [' '].intercalate (words.map String.toList) :=
    String.toList_intercalate
  rw [joined, List.contains_eq_any_beq, Text.any_intercalate apart, List.any_map,
    List.any_eq_false]
  intro word word_mem
  rw [Function.comp_apply, Bool.not_eq_true, List.any_eq_false]
  intro character character_mem
  rw [beq_iff_eq]
  rintro rfl
  rw [(areWords word word_mem).letters symbol character_mem] at noLetter
  contradiction

theorem operationRule_agree {operation : Operation}
    (areKeywords : ∀ keyword ∈ operation.keywords, IsWord keyword.toList)
    (noLetter : Text.isWordChar operation.symbol = false) (noSpace : operation.symbol ≠ ' ') :
    Rule.Agree (" ".intercalate words).toList words
      (operationRule operation : Rule (List Char) R)
      (arithmeticLine operation.keywords operation.name) := by
  refine ⟨?_, fun _ => rfl⟩
  have listed := Text.words_intercalate areWords
  have digits := Text.any_digit_words (" ".intercalate words)
  have named := Text.hasAnyWord_eq areKeywords (" ".intercalate words)
  rw [listed] at digits named
  simp only [operationRule, arithmeticLine, Operation.isCalledFor, named, ← digits,
    contains_intercalate areWords noLetter noSpace, Bool.or_false]

omit [Quantity R] in
theorem openingRule_agree {keywords : List String}
    (areKeywords : ∀ keyword ∈ keywords, IsWord keyword.toList) (intent : String → Intent R) :
    Rule.Agree (" ".intercalate words).toList words (openingRule keywords intent)
      (openingLine keywords intent) := by
  have starts := Text.startsWithAnyWord_intercalate areKeywords areWords
  have joined : (" ".intercalate words).toList = [' '].intercalate (words.map String.toList) :=
    String.toList_intercalate
  rw [joined]
  refine ⟨starts, ?_⟩
  intro applies
  cases words with
  | nil =>
      have never := starts.symm.trans applies
      simp at never
  | cons word words =>
      rw [List.forall_mem_cons] at areWords
      simp only [openingRule, openingLine, List.map_cons]
      rw [Text.takeWhile_intercalate areWords.1]
      simp

omit [Quantity R] in
theorem mentionRule_agree {keywords : List String}
    (areKeywords : ∀ keyword ∈ keywords, IsWord keyword.toList) (intent : Intent R) :
    Rule.Agree (" ".intercalate words).toList words (mentionRule keywords intent)
      (mentionLine keywords intent) := by
  refine ⟨?_, fun _ => rfl⟩
  have named := Text.hasAnyWord_eq areKeywords (" ".intercalate words)
  rwa [Text.words_intercalate areWords] at named

theorem keywordRules_agree :
    List.Forall₂ (Rule.Agree (" ".intercalate words).toList words) (keywordRules (R := R))
      wordTable := by
  have usable : ∀ operation ∈ operations, (∀ keyword ∈ operation.keywords, IsWord keyword.toList) ∧
      Text.isWordChar operation.symbol = false ∧ operation.symbol ≠ ' ' := by
    decide +kernel
  have areKeywords : ∀ keywords ∈ [questionWords, commandWords, copulaWords],
      ∀ keyword ∈ keywords, IsWord keyword.toList := by
    decide +kernel
  simp only [List.forall_mem_cons] at areKeywords
  rcases areKeywords with ⟨questions, commands, copulas, _⟩
  have operationsAgree : List.Forall₂ (Rule.Agree (" ".intercalate words).toList words)
      (operations.map (operationRule (R := R)))
      (operations.map fun operation => arithmeticLine operation.keywords operation.name) := by
    rw [List.forall₂_map_left_iff, List.forall₂_map_right_iff, List.forall₂_same]
    intro operation operation_mem
    rcases usable operation operation_mem with ⟨keywords, noLetter, noSpace⟩
    exact operationRule_agree areWords keywords noLetter noSpace
  apply List.rel_append operationsAgree
  refine .cons ?_ (.cons ?_ (.cons ?_ .nil))
  · exact openingRule_agree areWords questions question
  · exact openingRule_agree areWords commands fun _ => command
  · exact mentionRule_agree areWords copulas statement

end Words

/-- The searches classify a text as the keywords do. -/
theorem ofChars_eq_firstMatch_searches (text : List Char) :
    (ofChars text : Intent R) = firstMatch searches text :=
  (ofChars_eq_firstMatch text).trans (firstMatch_congr (searches_agree text)).symm

/-- A sentence is classified by its words: where the lowercase forms of the tokens are words, its
intent is that of the first line of the table that applies to them, which is also that of the first
search that finds something in the running text. Each search is triggered by the same sentences as
its line of the table, and gives the same intent: a word is found between edges of words if it is
one of the tokens, and never inside a token or across two of them. -/
theorem ofTokens_reads_table {tokens : List (Token R)}
    (areWords : ∀ token ∈ tokens, IsWord token.lowercase.toList) :
    let words := tokens.map Token.lowercase
    let text := (" ".intercalate words).toList
    ofTokens tokens = firstMatch wordTable words ∧
      ofTokens tokens = firstMatch searches text ∧
      List.Forall₂ (Rule.Agree text words) (searches (R := R)) wordTable ∧
      ∀ keyword : String, IsWord keyword.toList →
        ((Pattern.wholeWord (.spelled keyword)).occurs text = true ↔ keyword ∈ words) := by
  intro words text
  have listed : ∀ word ∈ words, IsWord word.toList := List.forall_mem_map.mpr areWords
  have agree : List.Forall₂ (Rule.Agree text words) (searches (R := R)) wordTable :=
    agree_trans (searches_agree text) (keywordRules_agree listed)
  have searched : ofTokens tokens = firstMatch searches text := ofChars_eq_firstMatch_searches text
  refine ⟨searched.trans (firstMatch_congr agree), searched, agree, ?_⟩
  intro keyword isKeyword
  have spells : (Pattern.spelled keyword).Spells [keyword] :=
    spells_oneOf (List.forall_mem_singleton.mpr isKeyword)
  rw [spells.occurs_wholeWord, Text.hasAnyWord, List.any_cons, List.any_nil, Bool.or_false,
    Text.hasWord_eq isKeyword, Text.words_intercalate listed, List.contains_iff_mem]

theorem ofTokens_reads_table_sum :
    let tokens := Tagging.tokens ["Which", "two", "add", "up", "to", "7"]
      (List.replicate 6 (none : Option (Entry Float)))
    (∀ token ∈ tokens, IsWord token.lowercase.toList) ∧
      ofTokens tokens = (arithmetic "addition" : Intent Float) := by
  intro tokens
  have areWords : ∀ token ∈ tokens, IsWord token.lowercase.toList := by decide +kernel
  exact ⟨areWords, (ofTokens_reads_table areWords).1.trans rfl⟩

end SentenceGraph.Intent
