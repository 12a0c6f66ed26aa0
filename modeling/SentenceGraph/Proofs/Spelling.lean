import Mathlib.Data.List.Basic
import SentenceGraph.Decimal.Integer
import SentenceGraph.Quantity

/-!
# How numbers are written

A natural number is written without leading zeros. A finite binary number is written as a numeral: a
whole part that has no leading zeros either, and a fraction or an exponent or both. This takes that
the shortest digits of a positive number are not zero, since no interval of rounding reaches down to
zero.
-/

namespace SentenceGraph.Decimal

/-! ### Natural numbers -/

theorem isDigit_of_mem_toDigits {number : Nat} {character : Char}
    (character_mem : character ∈ Nat.toDigits 10 number) : character.isDigit = true :=
  Nat.isDigit_of_mem_toDigits (by decide) (by decide) character_mem

/-- A positive number is written from its first digit that is not zero. -/
theorem exists_toDigits_eq_cons {number : Nat} (positive : 0 < number) :
    ∃ first others, Nat.toDigits 10 number = first :: others ∧ first ≠ '0' := by
  induction number using Nat.strongRecOn with
  | _ number inductionHypothesis =>
      by_cases small : number < 10
      · have nonzero : ∀ number < 10, 0 < number → Nat.digitChar number ≠ '0' := by decide
        exact ⟨_, [], Nat.toDigits_of_lt_base small, nonzero number small positive⟩
      · rcases inductionHypothesis (number / 10) (by omega) (by omega) with
          ⟨first, others, written, nonzero⟩
        rw [Nat.toDigits_of_base_le (by decide) (by omega), written]
        exact ⟨first, _, rfl, nonzero⟩

theorem ofDigits_toDigits (number : Nat) : ofDigits (Nat.toDigits 10 number) = number :=
  Nat.ofDigitChars_ten_toDigits

/-! ### Shortest digits -/

theorem tenTo_pos (exponent : Nat) : 0 < tenTo exponent :=
  Nat.pow_pos (by decide)

theorem twoTo_pos (exponent : Nat) : 0 < twoTo exponent :=
  Nat.pow_pos (by decide)

/-- Zero rounds to no positive number. -/
theorem readsBack_zero {mantissa : Nat} (positive : 0 < mantissa) (exponent place : Int) :
    readsBack mantissa exponent 0 place = false := by
  have scale := Nat.mul_pos (tenTo_pos (-place).toNat) (twoTo_pos exponent.toNat)
  have lower : 0 < (roundingInterval mantissa exponent).1 := by
    simp only [roundingInterval]
    split <;> omega
  have low := Nat.mul_pos lower scale
  simp only [readsBack, Nat.mul_zero, Nat.zero_mul]
  cases (roundingInterval mantissa exponent).2.2 with
  | false => simp
  | true =>
      simp only [if_true, Bool.and_eq_false_iff, decide_eq_false_iff_not]
      omega

theorem searchGrids_pos {mantissa : Nat} (positive : 0 < mantissa) (exponent leading : Int)
    (shown remaining : Nat) : 0 < (searchGrids mantissa exponent leading shown remaining).1 := by
  induction remaining generalizing shown with
  | zero => exact positive
  | succ remaining inductionHypothesis =>
      simp only [searchGrids]
      split
      · rename_i digits found
        rcases Nat.eq_zero_or_pos digits with rfl | nonzero
        · have reads := List.find?_some found
          rw [readsBack_zero positive] at reads
          contradiction
        · exact nonzero
      · exact inductionHypothesis (shown + 1)

/-- Trailing zeros are fewer than the digits of a positive number. -/
theorem length_takeWhile_zero_le {first : Char} (nonzero : first ≠ '0') (others : List Char) :
    ((first :: others).reverse.takeWhile (· == '0')).length ≤ others.length := by
  rw [List.reverse_cons, List.takeWhile_append]
  split
  · simp [nonzero]
  · simpa using (List.takeWhile_prefix (p := (· == '0')) (l := others.reverse)).length_le

theorem dropTrailingZeros_pos {digits : Nat} (positive : 0 < digits) (place : Int) :
    0 < (dropTrailingZeros digits place).1 := by
  rcases exists_toDigits_eq_cons positive with ⟨first, others, written, nonzero⟩
  have reached : 10 ^ others.length ≤ digits := by
    by_contra small
    rcases Nat.eq_zero_or_pos others.length with none | some
    · simp [none] at small
      omega
    · have short := (Nat.length_toDigits_le_iff (by decide) some).mpr (Nat.not_le.mp small)
      rw [written, List.length_cons] at short
      omega
  have fewer := length_takeWhile_zero_le nonzero others
  rw [← written] at fewer
  have bounded := Nat.pow_le_pow_right (n := 10) (by decide) fewer
  exact Nat.div_pos (Nat.le_trans bounded reached) (tenTo_pos _)

theorem shortestDigits_pos {mantissa : Nat} (positive : 0 < mantissa) (exponent : Int) :
    0 < (shortestDigits mantissa exponent).1 := by
  simp only [shortestDigits]
  exact dropTrailingZeros_pos (searchGrids_pos positive _ _ _ _) _

/-! ### Numerals -/

/-- A number with a fraction or an exponent, as it is written without its sign. -/
structure Numeral where
  whole : List Char
  fraction : List Char
  /-- Whether the exponent is negative, and its digits. -/
  exponent : Option (Bool × List Char)
  whole_eq : whole = ['0'] ∨ ∃ first others, whole = first :: others ∧ first ≠ '0'
  digits : ∀ character ∈ whole ++ fraction, character.isDigit = true
  exponentDigits :
    ∀ scale ∈ exponent, scale.2 ≠ [] ∧ ∀ character ∈ scale.2, character.isDigit = true
  broken : fraction ≠ [] ∨ exponent ≠ none

namespace Numeral

def fractionChars (numeral : Numeral) : List Char :=
  if numeral.fraction = [] then [] else '.' :: numeral.fraction

def exponentChars (numeral : Numeral) : List Char :=
  match numeral.exponent with
  | none => []
  | some (negative, digits) => 'e' :: (if negative then '-' else '+') :: digits

def chars (numeral : Numeral) : List Char :=
  numeral.whole ++ (numeral.fractionChars ++ numeral.exponentChars)

/-- The digits as one number. -/
def significand (numeral : Numeral) : Nat :=
  ofDigits (numeral.whole ++ numeral.fraction)

/-- The number that the exponent stands for. -/
def power? (numeral : Numeral) : Option Int :=
  numeral.exponent.map fun (negative, digits) =>
    if negative then -(ofDigits digits : Int) else ofDigits digits

/-- The power of ten of the last digit. -/
def scale (numeral : Numeral) : Int :=
  numeral.power?.getD 0 - numeral.fraction.length

theorem cases_of_mem_chars {numeral : Numeral} {character : Char}
    (character_mem : character ∈ numeral.chars) :
    character.isDigit = true ∨ character ∈ ['-', '+', '.', 'e'] := by
  simp only [chars, List.mem_append] at character_mem
  rcases character_mem with inWhole | inFraction | inExponent
  · exact Or.inl (numeral.digits character (List.mem_append_left _ inWhole))
  · rw [fractionChars] at inFraction
    split at inFraction
    · simp at inFraction
    · rcases List.mem_cons.mp inFraction with rfl | inDigits
      · simp
      · exact Or.inl (numeral.digits character (List.mem_append_right _ inDigits))
  · rw [exponentChars] at inExponent
    split at inExponent
    · simp at inExponent
    · rename_i negative digits scale
      simp only [List.mem_cons] at inExponent
      rcases inExponent with rfl | rfl | inDigits
      · simp
      · cases negative with
        | false => simp
        | true => simp
      · exact Or.inl ((numeral.exponentDigits _ scale).2 character inDigits)

/-- Digits around a point. -/
def positional (whole fraction : List Char)
    (whole_eq : whole = ['0'] ∨ ∃ first others, whole = first :: others ∧ first ≠ '0')
    (digits : ∀ character ∈ whole ++ fraction, character.isDigit = true)
    (broken : fraction ≠ []) : Numeral where
  whole := whole
  fraction := fraction
  exponent := none
  whole_eq := whole_eq
  digits := digits
  exponentDigits := by simp
  broken := Or.inl broken

@[simp]
theorem chars_positional {whole fraction : List Char}
    (whole_eq : whole = ['0'] ∨ ∃ first others, whole = first :: others ∧ first ≠ '0')
    (digits : ∀ character ∈ whole ++ fraction, character.isDigit = true)
    (broken : fraction ≠ []) :
    (positional whole fraction whole_eq digits broken).chars = whole ++ '.' :: fraction := by
  simp [chars, fractionChars, exponentChars, positional, broken]

end Numeral

/-! ### Binary numbers -/

theorem isDigit_of_mem_paddedDigits {width number : Nat} {character : Char}
    (character_mem : character ∈ paddedDigits width number) : character.isDigit = true := by
  rcases List.mem_append.mp character_mem with zero | digit
  · simp [List.eq_of_mem_replicate zero]
  · exact isDigit_of_mem_toDigits digit

theorem paddedDigits_ne_nil (width number : Nat) : paddedDigits width number ≠ [] := by
  simp [paddedDigits, Nat.toDigits_ne_nil]

/-- A digit, the others after a point, and an exponent. -/
theorem exists_numeral_scientific {first : Char} {others : List Char} (nonzero : first ≠ '0')
    (digits : ∀ character ∈ first :: others, character.isDigit = true) (exponent : Int) :
    ∃ numeral : Numeral, numeral.chars =
      (match first :: others with
        | first :: second :: rest => first :: '.' :: second :: rest
        | single => single) ++ 'e' :: exponentText exponent := by
  refine ⟨⟨[first], others, some (decide (exponent < 0), paddedDigits 2 exponent.natAbs),
    Or.inr ⟨first, [], rfl, nonzero⟩, digits, ?_, by simp⟩, ?_⟩
  · rintro _ ⟨rfl⟩
    exact ⟨paddedDigits_ne_nil _ _, fun _ => isDigit_of_mem_paddedDigits⟩
  · cases others with
    | nil => simp [Numeral.chars, Numeral.fractionChars, Numeral.exponentChars, exponentText]
    | cons second rest =>
        simp [Numeral.chars, Numeral.fractionChars, Numeral.exponentChars, exponentText]

theorem exists_numeral_generalText {digits : Nat} (positive : 0 < digits) (place : Int) :
    ∃ numeral : Numeral, numeral.chars = generalText digits place := by
  rcases exists_toDigits_eq_cons positive with ⟨first, others, written, nonzero⟩
  have allDigits : ∀ character ∈ first :: others, character.isDigit = true := by
    intro character character_mem
    rw [← written] at character_mem
    exact isDigit_of_mem_toDigits character_mem
  simp only [generalText, written]
  split_ifs with scientific whole inside
  · exact exists_numeral_scientific nonzero allDigits _
  · refine ⟨.positional ((first :: others) ++ List.replicate place.toNat '0') ['0']
      (Or.inr ⟨first, _, rfl, nonzero⟩) ?_ (by simp), by simp⟩
    intro character character_mem
    simp only [List.mem_append, List.mem_replicate, List.mem_singleton] at character_mem
    rcases character_mem with (inDigits | ⟨_, rfl⟩) | rfl
    · exact allDigits character inDigits
    · rfl
    · rfl
  · have cut : (place + (first :: others).length - 1).toNat + 1 < (first :: others).length := by
      omega
    refine ⟨.positional ((first :: others).take (_ + 1)) ((first :: others).drop (_ + 1))
      (Or.inr ⟨first, _, rfl, nonzero⟩) ?_ ?_, Numeral.chars_positional ..⟩
    · rw [List.take_append_drop]
      exact allDigits
    · simpa using cut
  · refine ⟨.positional ['0'] (List.replicate _ '0' ++ first :: others) (Or.inl rfl) ?_ (by simp),
      Numeral.chars_positional ..⟩
    intro character character_mem
    simp only [List.singleton_append, List.mem_cons, List.mem_append, List.mem_replicate]
      at character_mem
    rcases character_mem with rfl | ⟨_, rfl⟩ | inDigits
    · rfl
    · rfl
    · exact allDigits character (List.mem_cons.mpr inDigits)

/-- A finite number is written as a numeral after its sign. -/
theorem exists_numeral_text (negative : Bool) (mantissa : Nat) (exponent : Int) :
    ∃ numeral : Numeral,
      (Binary.finite negative mantissa exponent).text = withSign negative numeral.chars := by
  rcases Nat.eq_zero_or_pos mantissa with rfl | positive
  · exact ⟨.positional ['0'] ['0'] (Or.inl rfl) (by simp) (by simp), rfl⟩
  · rcases exists_numeral_generalText (shortestDigits_pos positive exponent)
      (shortestDigits mantissa exponent).2 with ⟨numeral, written⟩
    refine ⟨numeral, ?_⟩
    simp [Binary.text, written, Nat.ne_of_gt positive]

end SentenceGraph.Decimal
