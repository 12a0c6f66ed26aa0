import Mathlib.Data.Prod.Lex
import Mathlib.Tactic.Linarith
import Mathlib.Tactic.Zify
import SentenceGraph.Proofs.Unpacking
import SentenceGraph.Value.Order

/-!
# The order of numbers is that of their sizes

Every finite binary64 number is a multiple of the smallest positive one, and so is every integer.
How often that goes into a number is its size, an integer; infinities lie beyond all integers. An
integer is compared with a quantity through the whole part of the quantity and, where that is equal,
through the quantity nearest to the integer. This loses nothing: where the whole part of a quantity
is equal to an integer, the nearest quantity is the integer itself.

So one number lies below another one if its size does, whatever their kinds. The only values
without a size are those that are no number.
-/

namespace SentenceGraph

namespace Decimal

open Float.Model Float.Model.UnpackedFloat

/-- The size of a binary number: first the side of an infinity, then how often the smallest
positive number goes into it. -/
def Binary.size : Binary → ℤ ×ₗ ℤ
  | .notANumber => toLex (0, 0)
  | .infinite negative => toLex (if negative then -1 else 1, 0)
  | .finite negative mantissa exponent =>
      let units : ℤ := unitsOf mantissa exponent
      toLex (0, if negative then -units else units)

theorem compare_toLex (side other units otherUnits : ℤ) :
    compare (toLex (side, units)) (toLex (other, otherUnits)) =
      (compare side other).then (compare units otherUnits) :=
  rfl

section Sizes

variable {mantissa other : Nat} {exponent otherExponent : Int} {sign : Sign}

theorem unitsOf_pos (positive : 0 < mantissa) (exponent : Int) : 0 < unitsOf mantissa exponent := by
  unfold unitsOf
  positivity

theorem Binary.size_infinity :
    (Binary.ofUnpacked (.infinity sign)).size = toLex (sign.apply 1, 0) := by
  cases sign
  · rfl
  · rfl

theorem Binary.size_zero : (Binary.ofUnpacked (.zero sign)).size = toLex (0, 0) := by
  have none : unitsOf 0 smallestExponent = 0 := Nat.zero_mul _
  cases sign with
  | negative =>
      change toLex (0, -(unitsOf 0 smallestExponent : ℤ)) = _
      rw [none]
      rfl
  | positive =>
      change toLex (0, (unitsOf 0 smallestExponent : ℤ)) = _
      rw [none]
      rfl

theorem Binary.size_finite {positive : 0 < mantissa} :
    (Binary.ofUnpacked (.finite sign mantissa exponent positive)).size =
      toLex (0, sign.apply (unitsOf mantissa exponent)) := by
  cases sign
  · rfl
  · rfl

/-- A number of 53 digits is greater than all numbers of a smaller exponent. -/
theorem unitsOf_lt (holds : IsBinary64 mantissa exponent)
    (otherHolds : IsBinary64 other otherExponent) (lower : exponent < otherExponent) :
    unitsOf mantissa exponent < unitsOf other otherExponent := by
  have width := holds.width
  have least := holds.least
  have leading : 2 ^ 52 ≤ other := by
    apply otherHolds.leading.resolve_right
    omega
  let places := (exponent - smallestExponent).toNat
  let otherPlaces := (otherExponent - smallestExponent).toNat
  have further : places + 1 ≤ otherPlaces := by omega
  calc mantissa * 2 ^ places
    _ < 2 ^ 53 * 2 ^ places := by
      apply Nat.mul_lt_mul_of_pos_right width
      positivity
    _ = 2 ^ 52 * 2 ^ (places + 1) := by ring
    _ ≤ other * 2 ^ otherPlaces := by
      apply Nat.mul_le_mul leading
      apply Nat.pow_le_pow_right _ further
      omega

theorem compare_unitsOf (holds : IsBinary64 mantissa exponent)
    (otherHolds : IsBinary64 other otherExponent) :
    (compare exponent otherExponent).then (compare mantissa other) =
      compare (unitsOf mantissa exponent) (unitsOf other otherExponent) := by
  rcases lt_trichotomy exponent otherExponent with lower | rfl | higher
  · rw [compare_lt_iff_lt.mpr lower, compare_lt_iff_lt.mpr (unitsOf_lt holds otherHolds lower)]
    rfl
  · have power : 0 < 2 ^ (exponent - smallestExponent).toNat := by positivity
    rw [compare_eq_iff_eq.mpr rfl, Ordering.eq_then, ← cmp_eq_compare, ← cmp_eq_compare]
    exact (cmp_mul_pos_right power mantissa other).symm
  · rw [compare_gt_iff_gt.mpr higher, compare_gt_iff_gt.mpr (unitsOf_lt otherHolds holds higher)]
    rfl

theorem apply_negative_lt (positive : 0 < mantissa) (exponent : Int) :
    Sign.negative.apply (unitsOf mantissa exponent) < 0 :=
  neg_lt_zero.mpr (Int.natCast_pos.mpr (unitsOf_pos positive exponent))

theorem lt_apply_positive (positive : 0 < mantissa) (exponent : Int) :
    0 < Sign.positive.apply (unitsOf mantissa exponent) :=
  Int.natCast_pos.mpr (unitsOf_pos positive exponent)

theorem compare_apply_positive (units otherUnits : Nat) :
    compare (Sign.positive.apply units) (Sign.positive.apply otherUnits) =
      compare units otherUnits := by
  rw [← cmp_eq_compare, ← cmp_eq_compare]
  exact (Nat.strictMono_cast : StrictMono (Nat.cast : ℕ → ℤ)).cmp_map_eq units otherUnits

theorem compare_apply_negative (units otherUnits : Nat) :
    compare (Sign.negative.apply units) (Sign.negative.apply otherUnits) =
      (compare units otherUnits).swap := by
  rw [← cmp_eq_compare, ← cmp_eq_compare, cmp_swap]
  exact (Nat.strictMono_cast : StrictMono (Nat.cast : ℕ → ℤ)).neg.cmp_map_eq units otherUnits

variable {zeroSign otherSign : Sign} {positive : 0 < mantissa} {otherPositive : 0 < other}

theorem compare_zero :
    UnpackedFloat.compare (.zero zeroSign) (.finite sign mantissa exponent positive) =
        some (compare 0 (sign.apply (unitsOf mantissa exponent))) ∧
      UnpackedFloat.compare (.finite sign mantissa exponent positive) (.zero zeroSign) =
        some (compare (sign.apply (unitsOf mantissa exponent)) 0) := by
  cases sign with
  | negative =>
      have below := apply_negative_lt positive exponent
      rw [compare_gt_iff_gt.mpr below, compare_lt_iff_lt.mpr below]
      exact ⟨rfl, rfl⟩
  | positive =>
      have above := lt_apply_positive positive exponent
      rw [compare_lt_iff_lt.mpr above, compare_gt_iff_gt.mpr above]
      exact ⟨rfl, rfl⟩

theorem compare_finite (holds : IsBinary64 mantissa exponent)
    (otherHolds : IsBinary64 other otherExponent) :
    UnpackedFloat.compare (.finite sign mantissa exponent positive)
        (.finite otherSign other otherExponent otherPositive) =
      some (compare (sign.apply (unitsOf mantissa exponent))
        (otherSign.apply (unitsOf other otherExponent))) := by
  have order := compare_unitsOf holds otherHolds
  cases sign with
  | negative =>
      have below := apply_negative_lt positive exponent
      cases otherSign with
      | negative =>
          rw [compare_apply_negative, ← order]
          rfl
      | positive =>
          have above := lt_apply_positive otherPositive otherExponent
          rw [compare_lt_iff_lt.mpr (below.trans above)]
          rfl
  | positive =>
      have above := lt_apply_positive positive exponent
      cases otherSign with
      | negative =>
          have below := apply_negative_lt otherPositive otherExponent
          rw [compare_gt_iff_gt.mpr (below.trans above)]
          rfl
      | positive =>
          rw [compare_apply_positive, ← order]
          rfl

end Sizes

theorem isBinary64_of_unpack {value : Float} {sign : Sign} {mantissa : Nat} {exponent : Int}
    {positive : 0 < mantissa}
    (unpacked : value.toModel.unpack = .finite sign mantissa exponent positive) :
    IsBinary64 mantissa exponent := by
  have parts := Binary.ofFloat_eq_ofUnpacked value
  rw [unpacked] at parts
  exact Binary.isBinary64_of_ofFloat parts

/-- Unpacked numbers are compared as their sizes are. -/
theorem compare_unpacked {left right : UnpackedFloat}
    (number : Binary.ofUnpacked left ≠ .notANumber)
    (otherNumber : Binary.ofUnpacked right ≠ .notANumber)
    (holds : ∀ {sign mantissa exponent positive},
      left = .finite sign mantissa exponent positive → IsBinary64 mantissa exponent)
    (otherHolds : ∀ {sign mantissa exponent positive},
      right = .finite sign mantissa exponent positive → IsBinary64 mantissa exponent) :
    left.compare right =
      some (compare (Binary.ofUnpacked left).size (Binary.ofUnpacked right).size) := by
  cases left with
  | notANumber => exact absurd rfl number
  | infinity sign =>
      cases right with
      | notANumber => exact absurd rfl otherNumber
      | infinity other =>
          rw [Binary.size_infinity, Binary.size_infinity, compare_toLex]
          cases sign <;> cases other <;> rfl
      | zero other =>
          rw [Binary.size_infinity, Binary.size_zero, compare_toLex]
          cases sign <;> rfl
      | finite other mantissa exponent positive =>
          rw [Binary.size_infinity, Binary.size_finite, compare_toLex]
          cases sign <;> rfl
  | zero sign =>
      cases right with
      | notANumber => exact absurd rfl otherNumber
      | infinity other =>
          rw [Binary.size_zero, Binary.size_infinity, compare_toLex]
          cases other <;> rfl
      | zero other =>
          rw [Binary.size_zero, Binary.size_zero, compare_toLex]
          rfl
      | finite other mantissa exponent positive =>
          rw [Binary.size_zero, Binary.size_finite, compare_toLex]
          exact compare_zero.1
  | finite sign mantissa exponent positive =>
      cases right with
      | notANumber => exact absurd rfl otherNumber
      | infinity other =>
          rw [Binary.size_finite, Binary.size_infinity, compare_toLex]
          cases other <;> rfl
      | zero other =>
          rw [Binary.size_finite, Binary.size_zero, compare_toLex]
          exact compare_zero.2
      | finite other otherMantissa otherExponent otherPositive =>
          rw [Binary.size_finite, Binary.size_finite, compare_toLex]
          exact compare_finite (holds rfl) (otherHolds rfl)

/-- Quantities are compared as their sizes are. -/
theorem compare_unpack {first second : Float} (number : Binary.ofFloat first ≠ .notANumber)
    (secondNumber : Binary.ofFloat second ≠ .notANumber) :
    first.toModel.unpack.compare second.toModel.unpack =
      some (compare (Binary.ofFloat first).size (Binary.ofFloat second).size) := by
  rw [Binary.ofFloat_eq_ofUnpacked] at number secondNumber
  rw [Binary.ofFloat_eq_ofUnpacked, Binary.ofFloat_eq_ofUnpacked]
  exact compare_unpacked number secondNumber isBinary64_of_unpack isBinary64_of_unpack

/-- One quantity lies below another one if its size does. -/
theorem float_lt_iff_size_lt {first second : Float} (number : Binary.ofFloat first ≠ .notANumber)
    (secondNumber : Binary.ofFloat second ≠ .notANumber) :
    first < second ↔ (Binary.ofFloat first).size < (Binary.ofFloat second).size := by
  change decide (UnpackedFloat.lt _ _ = true) = true ↔ _
  rw [decide_eq_true_iff, UnpackedFloat.lt, beq_iff_eq, compare_unpack number secondNumber,
    Option.some_inj, compare_lt_iff_lt]

/-- The whole part of a magnitude is exact and less than one below it. -/
theorem quotientOf_bounds {mantissa : Nat} {exponent : Int} (holds : IsBinary64 mantissa exponent) :
    let whole := (quotientOf mantissa exponent).1 / (quotientOf mantissa exponent).2
    IsExact whole ∧ whole * unitsOfOne ≤ unitsOf mantissa exponent ∧
      unitsOf mantissa exponent < (whole + 1) * unitsOfOne := by
  by_cases integral : 0 ≤ exponent
  · rcases Int.eq_ofNat_of_zero_le integral with ⟨places, rfl⟩
    intro whole
    have same : whole = mantissa * 2 ^ places := by
      simp [whole, quotientOf, twoTo]
    rw [unitsOf_natCast, same]
    refine ⟨Or.inr ⟨mantissa, places, holds, rfl⟩, le_rfl, ?_⟩
    apply Nat.mul_lt_mul_of_pos_right _ unitsOfOne_pos
    omega
  · intro whole
    have least := holds.least
    let divisor := 2 ^ (-exponent).toNat
    have divisor_pos : 0 < divisor := by positivity
    have same : whole = mantissa / divisor := by
      simp [whole, quotientOf, twoTo, integral, divisor]
    have split : unitsOfOne = divisor * 2 ^ (exponent - smallestExponent).toNat := by
      rw [unitsOfOne_eq, ← pow_add]
      congr 1
      simp only [smallestExponent] at *
      omega
    rw [unitsOf, split, same]
    refine ⟨Or.inl ?_, ?_, ?_⟩
    · exact (Nat.div_le_self mantissa divisor).trans_lt holds.width
    · rw [← mul_assoc]
      apply Nat.mul_le_mul_right
      exact Nat.div_mul_le_self mantissa divisor
    · rw [← mul_assoc]
      apply Nat.mul_lt_mul_of_pos_right
      · exact Nat.lt_mul_of_div_lt (Nat.lt_succ_self _) divisor_pos
      · positivity

end Decimal

namespace Number

open Decimal

/-- All numbers but the quantity that is no number. -/
def IsNumeric {R : Type} [Quantity R] : Number R → Prop
  | int _ => True
  | real quantity => Quantity.nonFinite? quantity ≠ some .notANumber

/-- The size of a number of either kind. -/
def size : Number Float → ℤ ×ₗ ℤ
  | int number => toLex (0, number * unitsOfOne)
  | real quantity => (Binary.ofFloat quantity).size

section

variable {quantity : Float} {number : Int}

theorem isNumeric_real_iff :
    (real quantity).IsNumeric ↔ Binary.ofFloat quantity ≠ .notANumber := by
  simp only [IsNumeric, Quantity.nonFinite?]
  cases Binary.ofFloat quantity with
  | notANumber => simp [Binary.nonFinite?]
  | infinite negative => simp [Binary.nonFinite?]
  | finite negative mantissa exponent => simp [Binary.nonFinite?]

theorem real_lt_iff {first second : Float} (numeric : (real first).IsNumeric)
    (secondNumeric : (real second).IsNumeric) :
    first < second ↔ (real first).size < (real second).size :=
  float_lt_iff_size_lt (isNumeric_real_iff.mp numeric) (isNumeric_real_iff.mp secondNumeric)

/-- The whole part of a finite quantity is exact and less than one away from it. -/
theorem exists_wholePart? {negative : Bool} {mantissa : Nat} {exponent : Int}
    (finite : Binary.ofFloat quantity = .finite negative mantissa exponent) :
    ∃ whole units : Int, Quantity.wholePart? quantity = some whole ∧
      (real quantity).size = toLex (0, units) ∧ IsExact whole.natAbs ∧
      (whole - 1) * unitsOfOne < units ∧ units < (whole + 1) * unitsOfOne := by
  rcases quotientOf_bounds (Binary.isBinary64_of_ofFloat finite) with ⟨exact, below, above⟩
  have one := unitsOfOne_pos
  generalize split :
    (quotientOf mantissa exponent).1 / (quotientOf mantissa exponent).2 = magnitude at *
  zify at below above one
  cases negative with
  | false =>
      refine ⟨magnitude, unitsOf mantissa exponent, ?_, ?_, exact, ?_, above⟩
      · simp [Quantity.wholePart?, finite, Binary.wholePart?, ← split]
      · simp [size, finite, Binary.size]
      · linarith
  | true =>
      refine ⟨-magnitude, -unitsOf mantissa exponent, ?_, ?_, ?_, ?_, ?_⟩
      · simp [Quantity.wholePart?, finite, Binary.wholePart?, ← split]
      · simp [size, finite, Binary.size]
      · simpa using exact
      · linarith
      · linarith

/-- An infinite quantity has all integers on one side; the whole part of a finite one tells it from
all other integers. -/
theorem size_cases (numeric : (real quantity).IsNumeric) :
    (∃ negative, Quantity.nonFinite? quantity = some (.infinite negative) ∧
      ∀ number : Int, ((real quantity).size < (int number).size ↔ negative = true) ∧
        ((int number).size < (real quantity).size ↔ negative = false)) ∨
    ∃ whole, Quantity.nonFinite? quantity = none ∧ Quantity.wholePart? quantity = some whole ∧
      IsExact whole.natAbs ∧
      ∀ number : Int, whole ≠ number →
        ((real quantity).size < (int number).size ↔ whole < number) ∧
          ((int number).size < (real quantity).size ↔ number < whole) := by
  cases finite : Binary.ofFloat quantity with
  | notANumber => exact absurd finite (isNumeric_real_iff.mp numeric)
  | infinite negative =>
      have beyond : (real quantity).size = toLex (if negative then -1 else 1, 0) := by
        simp only [size, finite, Binary.size]
      refine Or.inl ⟨negative, by simp [Quantity.nonFinite?, finite, Binary.nonFinite?], ?_⟩
      intro number
      rw [beyond, size, Prod.Lex.toLex_lt_toLex, Prod.Lex.toLex_lt_toLex]
      cases negative
      · simp
      · simp
  | finite negative mantissa exponent =>
      rcases exists_wholePart? finite with ⟨whole, units, part, sized, exact, below, above⟩
      refine Or.inr ⟨whole, ?_, part, exact, ?_⟩
      · simp [Quantity.nonFinite?, finite, Binary.nonFinite?]
      intro number different
      rw [sized, size, Prod.Lex.toLex_lt_toLex, Prod.Lex.toLex_lt_toLex]
      simp only [lt_self_iff_false, true_and, false_or]
      rcases lt_or_gt_of_ne different with less | more
      · have apart : (whole + 1) * unitsOfOne ≤ number * unitsOfOne := by
          apply Int.mul_le_mul_of_nonneg_right
          · omega
          · omega
        omega
      · have apart : number * unitsOfOne ≤ (whole - 1) * unitsOfOne := by
          apply Int.mul_le_mul_of_nonneg_right
          · omega
          · omega
        omega

/-- The quantity nearest to an exact integer has the size of the integer. -/
theorem exists_ofInt? (exact : IsExact number.natAbs) :
    ∃ nearest : Float, Quantity.ofInt? number = some nearest ∧ (real nearest).IsNumeric ∧
      (real nearest).size = (int number).size := by
  rcases floatOfInt?_of_isExact exact with ⟨nearest, mantissa, exponent, found, finite, units⟩
  refine ⟨nearest, found, ?_, ?_⟩
  · rw [isNumeric_real_iff, finite]
    simp
  · simp only [size, finite, Binary.size, units, decide_eq_true_eq]
    congr 2
    split
    case isTrue negative =>
      push_cast
      rw [abs_of_neg negative]
      ring
    case isFalse notNegative =>
      push_cast
      rw [abs_of_nonneg (not_lt.mp notNegative)]

/-- A quantity and an integer are compared by their sizes, in both directions. -/
theorem mixed_below_iff (numeric : (real quantity).IsNumeric) :
    (realBelowInt quantity number = true ↔ (real quantity).size < (int number).size) ∧
      (intBelowReal number quantity = true ↔ (int number).size < (real quantity).size) := by
  unfold realBelowInt intBelowReal
  rcases size_cases numeric with ⟨negative, infinite, sides⟩ | ⟨whole, finite, part, exact, sides⟩
  · simp [infinite, sides]
  · by_cases same : whole = number
    · subst same
      rcases exists_ofInt? exact with ⟨nearest, found, nearestNumeric, equal⟩
      have below := real_lt_iff numeric nearestNumeric
      have above := real_lt_iff nearestNumeric numeric
      simp [finite, part, found, below, above, equal]
    · simp [finite, part, same, sides number same]

end

/-- One number lies below another one if its size does. -/
theorem below_iff {first second : Number Float} (numeric : first.IsNumeric)
    (secondNumeric : second.IsNumeric) : first.below second = true ↔ first.size < second.size := by
  cases first with
  | int number =>
      cases second with
      | int other =>
          have one : (0 : Int) < unitsOfOne := by exact_mod_cast unitsOfOne_pos
          rw [size, size, Prod.Lex.toLex_lt_toLex]
          simp [below, mul_lt_mul_iff_left₀ one]
      | real quantity => exact (mixed_below_iff secondNumeric).2
  | real quantity =>
      cases second with
      | int other => exact (mixed_below_iff numeric).1
      | real other =>
          rw [← real_lt_iff numeric secondNumeric]
          simp [below]

end Number

namespace Value

/-- A value is a number, and not the one that is no number. -/
def IsNumeric {R : Type} [Quantity R] (value : Value R) : Prop :=
  ∃ number, Number.ofValue? value = some number ∧ number.IsNumeric

/-- The size of a number. -/
def size (value : Value Float) : ℤ ×ₗ ℤ :=
  ((Number.ofValue? value).map Number.size).getD 0

variable {first second : Value Float}

/-- Any two numbers are compared by their sizes. -/
theorem IsNumeric.below?_eq (numeric : first.IsNumeric) (secondNumeric : second.IsNumeric) :
    first.below? second = some (decide (first.size < second.size)) := by
  rcases numeric with ⟨number, isNumber, numeric⟩
  rcases secondNumeric with ⟨other, isOther, otherNumeric⟩
  have order := Number.below_iff numeric otherNumeric
  simp only [below?, size, isNumber, isOther, Option.map_some, Option.getD_some, ← order,
    Bool.decide_eq_true]

end Value

end SentenceGraph
