import Mathlib.Data.List.Find
import SentenceGraph.Proofs.Completing
import SentenceGraph.Proofs.Keywords

/-!
# Sentences that call for arithmetic

The rules know an operation by its keywords and by its symbol, and a text that is classified as it is
shows both. A sentence is classified by its words, in lowercase and with single spaces between them:
its digits and keywords are still there, for a keyword never reaches across a space, but no word has
a symbol in it. So a compilation knows operations by their keywords alone.
-/

namespace SentenceGraph

namespace Intent

variable {R : Type}

/-- Whether one of some words shows a keyword of the operation, in its lowercase form. -/
def Operation.isNamedBy (operation : Operation) (words : List String) : Bool :=
  words.any fun word => Text.hasAnyWord (Text.lowercase word).toList operation.keywords

theorem isUncased_symbol {operation : Operation} (operation_mem : operation ∈ operations) :
    Text.IsUncased (operation.symbol == ·) := by
  have apart : (operations.all fun operation => Text.mappedCodes.all
      (Text.areApart (operation.symbol.toNat, operation.symbol.toNat))) = true := by
    decide +kernel
  simp only [List.all_eq_true, Text.areApart, Bool.or_eq_true, Nat.blt_eq] at apart
  rintro letter ⟨codes, codes_mem, low, high⟩
  rw [beq_eq_false_iff_ne]
  rintro rfl
  rcases apart operation operation_mem codes codes_mem with before | after
  · omega
  · omega

/-- Keywords are words, and symbols are no characters of words. -/
theorem usable_of_mem {operation : Operation} (operation_mem : operation ∈ operations) :
    (∀ keyword ∈ operation.keywords, ' ' ∉ keyword.toList ∧ keyword.toList ≠ []) ∧
      Text.isWordChar operation.symbol = false ∧ operation.symbol ≠ ' ' := by
  have usable : ∀ operation ∈ operations,
      (∀ keyword ∈ operation.keywords, ' ' ∉ keyword.toList ∧ keyword.toList ≠ []) ∧
        Text.isWordChar operation.symbol = false ∧ operation.symbol ≠ ' ' := by
    decide +kernel
  exact usable operation operation_mem

section Joined

/-- The characters of the words of a text, in lowercase and with spaces between them. -/
def joinedWords (text : String) : List Char :=
  [' '].intercalate ((Text.words text).map fun word => (Text.lowercase word).toList)

theorem any_joinedWords {choice : Char → Bool} (uncased : Text.IsUncased choice)
    (apart : choice ' ' = false) (text : String) :
    (joinedWords text).any choice = (Text.words text).any fun word => word.toList.any choice := by
  simp [joinedWords, Text.any_intercalate apart, List.any_map, Function.comp_def,
    uncased.any_lowercase]

theorem contains_joinedWords {operation : Operation} (operation_mem : operation ∈ operations)
    (text : String) : (joinedWords text).contains operation.symbol = false := by
  rcases usable_of_mem operation_mem with ⟨_, noWordChar, noSpace⟩
  rw [List.contains_eq_any_beq, any_joinedWords (isUncased_symbol operation_mem) (by simpa),
    Text.any_words, List.any_eq_false]
  intro character _ both
  rw [Bool.and_eq_true, beq_iff_eq] at both
  rcases both with ⟨wordChar, rfl⟩
  rw [noWordChar] at wordChar
  contradiction

theorem isCalledFor_joinedWords {operation : Operation} (operation_mem : operation ∈ operations)
    (text : String) :
    operation.isCalledFor (joinedWords text) = operation.isNamedBy (Text.words text) := by
  rcases usable_of_mem operation_mem with ⟨usable, _⟩
  rw [Operation.isCalledFor, contains_joinedWords operation_mem, Bool.or_false, joinedWords,
    Text.hasAnyWord_intercalate usable, List.any_map]
  rfl

/-- Among the words of a text, only keywords call for an operation. -/
theorem operation?_joinedWords (text : String) :
    operation? (joinedWords text) =
      if text.toList.any Text.isDecimalDigit then
        operations.find? (·.isNamedBy (Text.words text))
      else none := by
  have named : operations.find? (·.isCalledFor (joinedWords text)) =
      operations.find? (·.isNamedBy (Text.words text)) := by
    apply List.find?_congr
    intro operation operation_mem
    exact isCalledFor_joinedWords operation_mem text
  rw [operation?, any_joinedWords Text.isUncased_isDecimalDigit (by decide), Text.any_digit_words,
    named]

/-- In a text as it is, symbols call for operations as well. -/
theorem exists_operation?_lowercase_iff (text : String) :
    (∃ operation, operation? (Text.lowercase text).toList = some operation) ↔
      text.toList.any Text.isDecimalDigit = true ∧ ∃ operation ∈ operations,
        Text.hasAnyWord (Text.lowercase text).toList operation.keywords = true ∨
          operation.symbol ∈ text.toList := by
  have symbols : ∀ operation ∈ operations,
      (Text.lowercase text).toList.contains operation.symbol =
        text.toList.contains operation.symbol := by
    intro operation operation_mem
    rw [List.contains_eq_any_beq, (isUncased_symbol operation_mem).any_lowercase,
      List.contains_eq_any_beq]
  rw [operation?, Text.isUncased_isDecimalDigit.any_lowercase]
  split
  · rename_i digit
    rw [← Option.isSome_iff_exists, List.find?_isSome]
    simp only [digit, true_and]
    constructor
    · rintro ⟨operation, operation_mem, called⟩
      rw [Operation.isCalledFor, Bool.or_eq_true, symbols operation operation_mem,
        List.contains_iff_mem] at called
      exact ⟨operation, operation_mem, called⟩
    · rintro ⟨operation, operation_mem, called⟩
      refine ⟨operation, operation_mem, ?_⟩
      rwa [Operation.isCalledFor, Bool.or_eq_true, symbols operation operation_mem,
        List.contains_iff_mem]
  · rename_i noDigit
    simp [noDigit]

end Joined

variable [Quantity R]

theorem kind_ofChars_iff (text : List Char) :
    (ofChars text : Intent R).kind = "math_operation" ↔
      ∃ operation, operation? text = some operation := by
  rw [ofChars]
  split
  · rename_i operation found
    simp [found, arithmetic]
  · rename_i none
    simp only [none, reduceCtorEq, exists_false, iff_false]
    split
    · simp [question]
    · split
      · simp [command]
      · split
        · simp [statement]
        · simp [unknown]

theorem ofTokens_eq_ofChars {tokens : List (Token R)} {text : String}
    (read : tokens.map Token.lowercase = (Text.words text).map Text.lowercase) :
    ofTokens tokens = ofChars (joinedWords text) := by
  rw [ofTokens, ofText, read, joinedWords, String.toList_intercalate, List.map_map]
  rfl

end Intent

section Compilations

variable {R : Type} [Quantity R] {compiler : Compiler R} {request : Request} {session : Session R}
  {clock : Clock R}

theorem Tagging.lowercase_tokens {words : List String} {entries : List (Option (Entry R))}
    (whole : words.length ≤ entries.length) :
    (tokens words entries).map Token.lowercase = words.map Text.lowercase := by
  have placed : (tokens words entries).map Token.lowercase =
      ((words.zip entries).zipIdx.map Prod.fst).map (Text.lowercase ∘ Prod.fst) := by
    simp only [tokens, List.map_map]
    rfl
  rw [placed, List.zipIdx_map_fst, ← List.map_map, List.map_fst_zip whole]

namespace Compiler

open Fallible

theorem lowercase_of_tokens {text : String} {tokens : List (Token R)}
    (read : compiler.tokens text = .ok tokens) :
    tokens.map Token.lowercase = (Text.words text).map Text.lowercase := by
  rcases bind_eq_ok_iff.mp read with ⟨entries, resolved, same⟩
  cases same
  apply Tagging.lowercase_tokens
  rw [(List.forall₂_iff_get.mp (mapM_eq_ok_iff.mp resolved)).1]

theorem exists_intent_of_answer (standard : compiler.registry = StandardPhase.all)
    {compilation : Compilation R}
    (answered : (compiler.compile request session clock).answer = .ok compilation)
    (success : compilation.success = true) :
    ∃ (tokens : List (Token R)) (rendered : Rendered R),
      compiler.tokens request.text = .ok tokens ∧ compilation.output = some rendered ∧
        Value.member? rendered.document "intent" = some (Intent.ofTokens tokens).toValue := by
  rcases succeeded_of_answer standard answered success with
    ⟨reading, rendered, elapsed, read, written, _, output, _⟩
  refine ⟨reading.tokens, rendered, read, output, ?_⟩
  rw [← written]
  rfl

/-- A text as it is calls for arithmetic if there is a digit in it and a keyword or a symbol of an
operation. The tokens of its words call for arithmetic if there is a digit in it and a keyword in one
of the words, whatever symbols there are, and it is their intent that the document of a compilation
shows. -/
theorem compile_tells_arithmetic (compiler : Compiler R)
    (standard : compiler.registry = StandardPhase.all) (text : String) :
    ((Intent.ofText (Text.lowercase text) : Intent R).kind = "math_operation" ↔
      text.toList.any Text.isDecimalDigit = true ∧ ∃ operation ∈ Intent.operations,
        Text.hasAnyWord (Text.lowercase text).toList operation.keywords = true ∨
          operation.symbol ∈ text.toList) ∧
    (∀ tokens : List (Token R),
      tokens.map Token.lowercase = (Text.words text).map Text.lowercase →
      ((Intent.ofTokens tokens : Intent R).kind = "math_operation" ↔
        text.toList.any Text.isDecimalDigit = true ∧ ∃ operation ∈ Intent.operations,
          operation.isNamedBy (Text.words text) = true)) ∧
    ∀ (request : Request) (session : Session R) (clock : Clock R) (compilation : Compilation R),
      request.text = text →
      (compiler.compile request session clock).answer = .ok compilation →
      compilation.success = true →
        ∃ (tokens : List (Token R)) (rendered : Rendered R),
          tokens.map Token.lowercase = (Text.words text).map Text.lowercase ∧
          compilation.output = some rendered ∧
          Value.member? rendered.document "intent" = some (Intent.ofTokens tokens).toValue := by
  refine ⟨?_, ?_, ?_⟩
  · rw [Intent.ofText, Intent.kind_ofChars_iff, Intent.exists_operation?_lowercase_iff]
  · intro tokens read
    rw [Intent.ofTokens_eq_ofChars read, Intent.kind_ofChars_iff, Intent.operation?_joinedWords]
    split
    · rename_i digit
      simp [digit, ← Option.isSome_iff_exists]
    · rename_i noDigit
      simp [noDigit]
  · rintro request session clock compilation rfl answered success
    rcases exists_intent_of_answer standard answered success with
      ⟨tokens, rendered, read, output, shown⟩
    exact ⟨tokens, rendered, lowercase_of_tokens read, output, shown⟩

/-- Without the dictionary, every sentence is compiled. -/
theorem exists_answer_forgetful (text : String) :
    ∃ compilation : Compilation ℚ,
      (Session.forgetful.compile { text } (.fresh .default) ⟨0, 0, 1, 0, ""⟩).answer =
        .ok compilation ∧
      compilation.success = true := by
  have counted : (Session.fresh .default : Session ℚ).analytics = .counted 0 0.0 100.0 := rfl
  have read : ∃ tokens, Session.forgetful.tokens text = .ok tokens := by
    apply (exists_tokens_eq_ok_iff _ _).mpr
    intro word _
    apply Resolver.exists_lookup_eq_ok_iff.mp
    exact ⟨_, rfl⟩
  rcases read with ⟨tokens, read⟩
  rcases exists_milliseconds 0 with ⟨time, dated⟩
  rcases exists_success { text } ⟨0, 0, 1, 0, ""⟩ rfl counted (Quantity.counts_exact _) dated rfl
    read with ⟨compilation, answer, success, _⟩
  exact ⟨compilation, answer, success⟩

theorem compile_tells_arithmetic_named :
    ∃ (compilation : Compilation ℚ) (tokens : List (Token ℚ)) (rendered : Rendered ℚ),
      (Session.forgetful.compile { text := "2 plus 2" } (.fresh .default) ⟨0, 0, 1, 0, ""⟩).answer =
        .ok compilation ∧
      compilation.output = some rendered ∧
      Value.member? rendered.document "intent" = some (Intent.ofTokens tokens).toValue ∧
      (Intent.ofTokens tokens : Intent ℚ).kind = "math_operation" := by
  have called : "2 plus 2".toList.any Text.isDecimalDigit = true ∧ ∃ operation ∈ Intent.operations,
      operation.isNamedBy (Text.words "2 plus 2") = true := by
    decide +kernel
  rcases exists_answer_forgetful "2 plus 2" with ⟨compilation, answer, success⟩
  rcases compile_tells_arithmetic Session.forgetful rfl "2 plus 2" with ⟨_, tells, shows⟩
  rcases shows { text := "2 plus 2" } (.fresh .default) ⟨0, 0, 1, 0, ""⟩ compilation rfl answer
    success with ⟨tokens, rendered, read, output, shown⟩
  exact ⟨compilation, tokens, rendered, answer, output, shown, (tells tokens read).mpr called⟩

/-- A text with a digit and a symbol that is read as no operation once it is cut into words. -/
theorem symbol_is_lost :
    "2 + 2".toList.any Text.isDecimalDigit = true ∧ '+' ∈ "2 + 2".toList ∧
      (Intent.ofText (Text.lowercase "2 + 2") : Intent ℚ).kind = "math_operation" ∧
      ∃ (compilation : Compilation ℚ) (rendered : Rendered ℚ),
        (Session.forgetful.compile { text := "2 + 2" } (.fresh .default) ⟨0, 0, 1, 0, ""⟩).answer =
          .ok compilation ∧
        compilation.output = some rendered ∧
        Value.member? rendered.document "intent" = some (Intent.unknown : Intent ℚ).toValue := by
  have digit : "2 + 2".toList.any Text.isDecimalDigit = true := by decide +kernel
  have symbol : '+' ∈ "2 + 2".toList := by decide +kernel
  refine ⟨digit, symbol, ?_, ?_⟩
  · rw [Intent.ofText, Intent.kind_ofChars_iff, Intent.exists_operation?_lowercase_iff]
    exact ⟨digit, _, List.mem_cons_self, Or.inr symbol⟩
  · rcases exists_answer_forgetful "2 + 2" with ⟨compilation, answer, success⟩
    rcases exists_intent_of_answer rfl answer success with ⟨tokens, rendered, read, output, shown⟩
    have unknown : (Intent.ofTokens tokens : Intent ℚ) = .unknown := by
      rw [Intent.ofTokens_eq_ofChars (lowercase_of_tokens read)]
      rfl
    rw [unknown] at shown
    exact ⟨compilation, rendered, answer, output, shown⟩

end Compiler

end Compilations

end SentenceGraph
