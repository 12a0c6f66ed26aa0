import Mathlib.Algebra.Order.BigOperators.Group.List
import Mathlib.Tactic.NormNum
import SentenceGraph.Phase.Standard
import SentenceGraph.Proofs.Counting

/-!
# Quantities without rounding

The rational numbers are quantities on which nothing is rounded and nothing is out of range. On them
the running means of a session are means, and the confidence of a semantic graph is never low: it is
a mean of scores, and every score is at least one half.
-/

namespace SentenceGraph

open Decimal in
/-- Rational numbers as quantities. There is none beyond all others; zero stands for what is no
number. -/
instance exactQuantity : Quantity ℚ where
  decidableLT := inferInstance
  decidableLE := inferInstance
  ofInt? number := some number
  ofDecimal negative digits exponent :=
    (if negative then -1 else 1) * digits * (10 : ℚ) ^ exponent
  ofNonFinite _ := 0
  nonFinite? _ := none
  isZero number := number == 0
  wholePart? number := some (number.num.tdiv number.den)
  roundTo places number :=
    let magnitude : ℚ :=
      (roundHalfEven (number.num.natAbs * tenTo places) number.den : ℚ) / tenTo places
    if number < 0 then -magnitude else magnitude
  fixedText places number :=
    withSign (number < 0)
      (placedText places (roundHalfEven (number.num.natAbs * tenTo places) number.den))
  text number := integerText number.num ++ "/" ++ naturalText number.den

namespace Quantity

@[simp]
theorem ofInt?_exact (number : Int) : (ofInt? number : Option ℚ) = some (number : ℚ) := rfl

@[simp]
theorem ofCount_exact (count : Nat) : (ofCount count : ℚ) = count := by
  simp [ofCount]

theorem counts_exact (greatest : Nat) : Counts ℚ greatest := by
  intro count _
  rfl

end Quantity

theorem exists_milliseconds (seconds : ℚ) : ∃ time, milliseconds seconds = .ok time :=
  ⟨_, rfl⟩

namespace Analytics

/-- On rational numbers, the next totals are the means over one more compilation. -/
theorem record_exact (count : Nat) (meanTime successRate duration : ℚ) (success : Bool) :
    (counted count meanTime successRate).record duration success =
      .ok (counted (count + 1) ((meanTime * count + duration) / (count + 1 : Nat))
        ((successRate * count + if success then 100 else 0) / (count + 1 : Nat))) := by
  rw [record_counted (Quantity.ofInt?_exact count) (Quantity.ofInt?_exact (count + 1 : Nat))]
  have percentage : ∀ success : Bool,
      (if success then (100.0 : ℚ) else 0.0) = if success then 100 else 0 := by
    intro success
    cases success with
    | false => norm_num
    | true => norm_num
  rw [← percentage]
  rfl

end Analytics

namespace SemanticGraph

/-- Without rounding, scores are summed in any order. -/
theorem meanScore_exact {scores : List ℚ} (given : scores ≠ []) :
    meanScore scores = scores.sum / scores.length := by
  have notEmpty : scores.isEmpty = false := by simpa using given
  rw [meanScore, notEmpty, Quantity.ofCount_exact, Quantity.ofCount_exact, Nat.cast_zero,
    ← List.sum_eq_foldl]
  rfl

/-- Bounds of all scores with the middle of the scale between them are bounds of their mean. -/
theorem meanScore_between {scores : List ℚ} {least greatest : ℚ}
    (bounded : ∀ score ∈ scores, least ≤ score ∧ score ≤ greatest) (low : least ≤ 0.5)
    (high : 0.5 ≤ greatest) : least ≤ meanScore scores ∧ meanScore scores ≤ greatest := by
  by_cases none : scores = []
  · subst none
    exact ⟨low, high⟩
  · have positive : (0 : ℚ) < scores.length := by
      exact_mod_cast List.length_pos_of_ne_nil none
    have below := List.card_nsmul_le_sum scores least fun score score_mem =>
      (bounded score score_mem).1
    have above := List.sum_le_card_nsmul scores greatest fun score score_mem =>
      (bounded score score_mem).2
    rw [nsmul_eq_mul] at below above
    rw [meanScore_exact none, le_div_iff₀' positive, div_le_iff₀' positive]
    exact ⟨below, above⟩

/-- An action scores 0.85 and an object 0.8, and both score 0.5 where the word has no entry. -/
theorem cases_of_mem_clauseScores {R : Type} [Quantity R] {tokens : List (Token R)}
    {clause : Clause R} {index : Nat} {score : R}
    (score_mem : score ∈ clauseScores tokens clause index) :
    score = 0.85 ∨ score = 0.8 ∨ score = 0.5 := by
  rcases List.mem_append.mp score_mem with ofAction | ofObject
  · simp only [clauseAction?, predicateAction, Option.mem_toList, Option.map_map,
      Option.map_eq_some_iff, Function.comp_apply] at ofAction
    rcases ofAction with ⟨slot, _, rfl⟩
    split
    · simp
    · simp
  · simp only [objectEntity, List.mem_map] at ofObject
    rcases ofObject with ⟨slot, _, rfl⟩
    split
    · simp
    · simp

/-- A sentence is never read with low confidence, nor with more than that of a known action. -/
theorem overallConfidence_between (tree : ParseTree ℚ) (tokens : List (Token ℚ))
    (memory : ContextMemory ℚ) :
    0.5 ≤ (ofTree tree tokens memory).overallConfidence ∧
      (ofTree tree tokens memory).overallConfidence ≤ 0.85 := by
  apply meanScore_between
  · intro score score_mem
    rcases List.mem_flatMap.mp score_mem with ⟨⟨clause, index⟩, _, here⟩
    rcases cases_of_mem_clauseScores here with rfl | rfl | rfl
    · norm_num
    · norm_num
    · norm_num
  · norm_num
  · norm_num

/-- A sentence without actions and objects has the least confidence. -/
example (memory : ContextMemory ℚ) :
    (ofTree (.ofTokens []) [] memory).overallConfidence = 0.5 := rfl

end SemanticGraph

end SentenceGraph
