import SentenceGraph.Proofs.Ordering

/-!
# Shares of counts

The arithmetic of binary numbers cuts a quotient off behind its digits and notes how what is cut off
compares with a half of the last one. Rounding then leaves the last digit or adds one to it. Where a
whole number is divided by a larger one, the digits fall short of one by at least one of the last
digit. Hence the rounded quotient is at most one.
-/

namespace SentenceGraph

namespace Decimal

open Float.Model Float.Model.UnpackedFloat

variable {mantissa other digits places : Nat} {exponent otherExponent : Int}

section Rounding

theorem mantissa_shiftRight (extended : ExtendedMantissa) (places : Nat) :
    (extended >>> places).mantissa = extended.mantissa / 2 ^ places := by
  change (Nat.repeat ExtendedMantissa.shiftRightOne places extended).mantissa = _
  induction places with
  | zero => simp [Nat.repeat]
  | succ places inductionHypothesis =>
      rw [Nat.repeat, ExtendedMantissa.shiftRightOne, inductionHypothesis, Nat.div_div_eq_div_mul,
        pow_succ]

/-- Rounding leaves the last digit or adds one to it. -/
theorem roundedMantissa_between (extended : ExtendedMantissa) :
    extended.mantissa ≤ extended.roundedMantissa ∧
      extended.roundedMantissa ≤ extended.mantissa + 1 := by
  unfold ExtendedMantissa.roundedMantissa
  cases extended.accuracy with
  | exact => simp [Accuracy.roundToNearestEven]
  | inexact order =>
      cases order
      · simp [Accuracy.roundToNearestEven]
      · simp only [Accuracy.roundToNearestEven]
        omega
      · simp [Accuracy.roundToNearestEven]

theorem unitsOf_mul_pow (least : smallestExponent ≤ exponent) :
    unitsOf (mantissa * 2 ^ places) exponent = unitsOf mantissa (exponent + places) := by
  have exponents : (exponent + places - smallestExponent).toNat =
      places + (exponent - smallestExponent).toNat := by
    omega
  rw [unitsOf, unitsOf, exponents, pow_add, mul_assoc]

theorem unitsOf_le_unitsOfOne (narrow : mantissa ≤ 2 ^ 53) (small : exponent ≤ -53) :
    unitsOf mantissa exponent ≤ unitsOfOne := by
  have exponents : 53 + (exponent - smallestExponent).toNat ≤ 1074 := by
    simp only [smallestExponent]
    omega
  calc mantissa * 2 ^ (exponent - smallestExponent).toNat
    _ ≤ 2 ^ 53 * 2 ^ (exponent - smallestExponent).toNat := Nat.mul_le_mul_right _ narrow
    _ = 2 ^ (53 + (exponent - smallestExponent).toNat) := (pow_add _ _ _).symm
    _ ≤ unitsOfOne := by
      rcases Nat.exists_eq_add_of_le exponents with ⟨rest, total⟩
      rw [unitsOfOne_eq, total, pow_add _ _ rest]
      exact Nat.le_mul_of_pos_right _ (by positivity)

/-- A number whose digits may just have become too many is one of the format. -/
theorem exists_isBinary64 (wide : 2 ^ 52 ≤ digits) (narrow : digits ≤ 2 ^ 53)
    (least : smallestExponent ≤ exponent) (greatest : exponent < 971) :
    ∃ result places : Nat,
      digits = result * 2 ^ places ∧ IsBinary64 result (exponent + places) := by
  rcases Nat.lt_or_eq_of_le narrow with fits | rfl
  · refine ⟨digits, 0, by simp, ?_⟩
    simp only [Nat.cast_zero, add_zero]
    exact ⟨fits, least, greatest.le, Or.inl wide⟩
  · refine ⟨2 ^ 52, 1, rfl, ?_⟩
    constructor
    · norm_num
    · omega
    · omega
    · exact Or.inl le_rfl

theorem targetExponent_of_digits (wide : 2 ^ 52 * 2 ^ places ≤ digits)
    (narrow : digits < 2 ^ 53 * 2 ^ places) (least : smallestExponent ≤ exponent + places) :
    Format.binary64.targetExponent (totalExponent digits exponent) = exponent + places := by
  have nonzero : digits ≠ 0 := by
    have : 0 < 2 ^ 52 * 2 ^ places := by positivity
    omega
  have width : digits.log2 = 52 + places := by
    rw [Nat.log2_eq_iff nonzero, pow_add, add_right_comm, pow_add]
    exact ⟨wide, narrow⟩
  simp only [Format.targetExponent, totalExponent, width, mantissaBits_binary64,
    minExponent_binary64]
  omega

theorem mantissa_ofMantissaAndAccuracy (accuracy : Accuracy) :
    (ExtendedMantissa.ofMantissaAndAccuracy digits accuracy).mantissa = digits := by
  cases accuracy with
  | exact => rfl
  | inexact order => cases order <;> rfl

/-- Digits that fall short of one by at least one of the last are rounded to one at most. -/
theorem exists_roundWithAccuracy (digits places : Nat) (exponent : Int)
    (wide : 2 ^ 52 * 2 ^ places ≤ digits) (narrow : digits < 2 ^ 53 * 2 ^ places)
    (least : smallestExponent ≤ exponent + places) (small : exponent + places ≤ -53) (sign : Sign)
    (accuracy : Accuracy) :
    ∃ result resultExponent positive,
      roundWithAccuracy Format.binary64 sign digits exponent accuracy =
          .finite sign result resultExponent positive ∧
        IsBinary64 result resultExponent ∧ unitsOf result resultExponent ≤ unitsOfOne := by
  have power : 0 < 2 ^ places := by positivity
  let cut := ExtendedMantissa.ofMantissaAndAccuracy digits accuracy >>> places
  have shifted : shiftToTargetExponent Format.binary64 digits exponent accuracy =
      (cut, exponent + places) := by
    simp only [shiftToTargetExponent, shiftToExponent, targetExponent_of_digits wide narrow least,
      add_sub_cancel_left, Int.toNat_natCast, cut]
  have between := roundedMantissa_between cut
  rw [mantissa_shiftRight, mantissa_ofMantissaAndAccuracy] at between
  have above : 2 ^ 52 ≤ digits / 2 ^ places := (Nat.le_div_iff_mul_le power).mpr wide
  have below : digits / 2 ^ places < 2 ^ 53 := (Nat.div_lt_iff_lt_mul power).mpr narrow
  have fits := between.2.trans below
  -- One more may carry into a digit that the format does not have.
  rcases exists_isBinary64 (above.trans between.1) fits least (by omega) with
    ⟨result, carry, same, holds⟩
  have positive : 0 < result := by
    apply Nat.pos_of_ne_zero
    rintro rfl
    omega
  refine ⟨result, exponent + places + carry, positive, ?_, holds, ?_⟩
  · have carried := holds.shiftToTargetExponent_scaled positive carry
    rw [add_sub_cancel_right, ← same] at carried
    exact roundWithAccuracy_of_shifted shifted carried positive sign
  · rw [← unitsOf_mul_pow least, ← same]
    exact unitsOf_le_unitsOfOne fits small

end Rounding

section Quotients

theorem div_finite {sign otherSign : Sign} (positive : 0 < mantissa) (otherPositive : 0 < other) :
    UnpackedFloat.div Format.binary64 (.finite sign mantissa exponent positive)
        (.finite otherSign other otherExponent otherPositive) =
      roundWithAccuracy Format.binary64 (sign / otherSign)
        (divCore Format.binary64 mantissa exponent other otherExponent).1
        (divCore Format.binary64 mantissa exponent other otherExponent).2.1
        (divCore Format.binary64 mantissa exponent other otherExponent).2.2 :=
  rfl

variable (holds : IsBinary64 mantissa exponent) (otherHolds : IsBinary64 other otherExponent)
  (leading : 2 ^ 52 ≤ mantissa) (otherLeading : 2 ^ 52 ≤ other)
  (near : -52 ≤ exponent - otherExponent)

include holds otherHolds leading otherLeading near

/-- The quotient of two numbers with all digits, before it is rounded. -/
theorem divCore_eq :
    divCore Format.binary64 mantissa exponent other otherExponent =
      (mantissa * 2 ^ 53 / other, exponent - otherExponent - 53,
        accuracyOfFraction (mantissa * 2 ^ 53 % other) other) := by
  have digits : mantissa.log2 = 52 :=
    (Nat.log2_eq_iff (by omega)).mpr ⟨leading, holds.width⟩
  have otherDigits : other.log2 = 52 :=
    (Nat.log2_eq_iff (by omega)).mpr ⟨otherLeading, otherHolds.width⟩
  have target : Format.binary64.targetExponent
      (totalExponent mantissa exponent - totalExponent other otherExponent) =
        exponent - otherExponent - 53 := by
    simp only [Format.targetExponent, totalExponent, digits, otherDigits, mantissaBits_binary64,
      minExponent_binary64, smallestExponent]
    omega
  have further : min (exponent - otherExponent) (exponent - otherExponent - 53) =
      exponent - otherExponent - 53 := by
    omega
  have shift : (exponent - otherExponent - (exponent - otherExponent - 53)).toNat = 53 := by
    omega
  simp only [divCore, target, further, shift, Nat.shiftLeft_eq]

/-- A number divided by a larger one of much the same size is at most one. -/
theorem exists_div (less : unitsOf mantissa exponent < unitsOf other otherExponent)
    (positive : 0 < mantissa) (otherPositive : 0 < other) :
    ∃ result resultExponent resultPositive,
      UnpackedFloat.div Format.binary64 (.finite .positive mantissa exponent positive)
          (.finite .positive other otherExponent otherPositive) =
          .finite .positive result resultExponent resultPositive ∧
        IsBinary64 result resultExponent ∧ unitsOf result resultExponent ≤ unitsOfOne := by
  have width := holds.width
  have otherWidth := otherHolds.width
  have order : exponent < otherExponent ∨ exponent = otherExponent ∧ mantissa < other := by
    have compared := compare_unitsOf holds otherHolds
    rw [compare_lt_iff_lt.mpr less, Ordering.then_eq_lt] at compared
    simpa [compare_lt_iff_lt] using compared
  have above : 2 ^ 52 ≤ mantissa * 2 ^ 53 / other := by
    apply (Nat.le_div_iff_mul_le otherPositive).mpr
    omega
  have below : mantissa * 2 ^ 53 / other < 2 ^ 54 := by
    apply (Nat.div_lt_iff_lt_mul otherPositive).mpr
    omega
  rw [div_finite, divCore_eq holds otherHolds leading otherLeading near]
  by_cases fits : mantissa * 2 ^ 53 / other < 2 ^ 53
  · apply exists_roundWithAccuracy _ 0 (exponent - otherExponent - 53)
    · omega
    · omega
    · simp only [smallestExponent]
      omega
    · omega
  · -- The quotient has one digit more, so that the larger number has the larger exponent.
    have notLess : ¬mantissa < other := by
      intro smaller
      apply fits
      apply (Nat.div_lt_iff_lt_mul otherPositive).mpr
      omega
    apply exists_roundWithAccuracy _ 1 (exponent - otherExponent - 53)
    · omega
    · omega
    · simp only [smallestExponent]
      omega
    · omega

end Quotients

theorem IsBinary64.eq_of_unitsOf_eq (holds : IsBinary64 mantissa exponent)
    (otherHolds : IsBinary64 other otherExponent)
    (same : unitsOf mantissa exponent = unitsOf other otherExponent) :
    mantissa = other ∧ exponent = otherExponent := by
  have compared := compare_unitsOf holds otherHolds
  rw [compare_eq_iff_eq.mpr same, Ordering.then_eq_eq] at compared
  exact ⟨compare_eq_iff_eq.mp compared.2, compare_eq_iff_eq.mp compared.1⟩

theorem float_le_iff {first second : Float} :
    first ≤ second ↔ (first.toModel.unpack.compare second.toModel.unpack).any (·.isLE) = true := by
  change decide (UnpackedFloat.le _ _ = true) = true ↔ _
  rw [decide_eq_true_iff, UnpackedFloat.le]

/-- A positive number of the format that is at most one. -/
theorem float_between {value : Float} {positive : 0 < mantissa}
    (unpacked : value.toModel.unpack = .finite .positive mantissa exponent positive)
    (bound : unitsOf mantissa exponent ≤ unitsOfOne) : 0.0 ≤ value ∧ value ≤ 1.0 := by
  have one : (1.0 : Float).toModel.unpack =
      .finite .positive (1 * 2 ^ 52) (-(52 : Nat)) (by positivity) := rfl
  have oneUnits : unitsOf (1 * 2 ^ 52) (-(52 : Nat)) = unitsOfOne := by
    rw [unitsOf_scaled 1 (by omega), one_mul]
  rw [float_le_iff, float_le_iff, unpacked]
  constructor
  · rfl
  · rw [one, compare_finite (isBinary64_of_unpack unpacked) (isBinary64_of_unpack one), oneUnits,
      compare_apply_positive]
    exact Std.isLE_compare.mpr bound

theorem sparePlaces_le (count : Nat) : sparePlaces count ≤ 52 := by
  unfold sparePlaces
  omega

section Counts

variable {count part whole : Nat}

theorem unitsOf_count (count : Nat) :
    unitsOf (count * 2 ^ sparePlaces count) (-sparePlaces count) = count * unitsOfOne :=
  unitsOf_scaled count ((sparePlaces_le count).trans (by omega))

theorem leading_of_lt (positive : 0 < count) (small : count < 2 ^ 53) :
    2 ^ 52 ≤ count * 2 ^ sparePlaces count := by
  have few := sparePlaces_le count
  apply (isBinary64_of_lt positive small).leading.resolve_right
  simp only [smallestExponent]
  omega

theorem unpack_ofCount (positive : 0 < count) (small : count < 2 ^ 53) :
    (Quantity.ofCount count : Float).toModel.unpack =
      .finite .positive (count * 2 ^ sparePlaces count) (-sparePlaces count)
        (scaled_pos positive) := by
  have exact : IsExact (count : Int).natAbs := Or.inl small
  rcases floatOfInt?_of_isExact exact with ⟨nearest, mantissa, exponent, found, finite, units⟩
  have same : (Quantity.ofCount count : Float) = nearest := by
    change (floatOfInt? count).getD 0.0 = nearest
    rw [found]
    rfl
  have holds := Binary.isBinary64_of_ofFloat finite
  rw [Int.natAbs_natCast, ← unitsOf_count count] at units
  rcases holds.eq_of_unitsOf_eq (isBinary64_of_lt positive small) units with ⟨rfl, rfl⟩
  rw [Binary.ofFloat_eq_ofUnpacked] at finite
  rw [same]
  cases unpacked : nearest.toModel.unpack with
  | notANumber =>
      rw [unpacked] at finite
      injection finite
  | infinity sign =>
      rw [unpacked] at finite
      injection finite
  | zero sign =>
      rw [unpacked] at finite
      injection finite with _ none _
      have := scaled_pos positive
      omega
  | finite sign mantissa exponent positive =>
      rw [unpacked] at finite
      injection finite with signs mantissas exponents
      subst mantissas exponents
      cases sign with
      | negative =>
          have below : (count : Int) < 0 := decide_eq_true_iff.mp signs.symm
          omega
      | positive => rfl

/-- A count divided by a larger one lies between zero and one. -/
theorem ofCount_div_between (positive : 0 < part) (less : part < whole) (small : whole < 2 ^ 53) :
    (0.0 : Float) ≤ Quantity.ofCount part / Quantity.ofCount whole ∧
      (Quantity.ofCount part / Quantity.ofCount whole : Float) ≤ 1.0 := by
  have partSmall := less.trans small
  have wholePositive := positive.trans less
  have units : unitsOf (part * 2 ^ sparePlaces part) (-sparePlaces part) <
      unitsOf (whole * 2 ^ sparePlaces whole) (-sparePlaces whole) := by
    rw [unitsOf_count, unitsOf_count]
    exact Nat.mul_lt_mul_of_pos_right less unitsOfOne_pos
  have near : -52 ≤ -(sparePlaces part : Int) - -(sparePlaces whole : Int) := by
    have few := sparePlaces_le part
    omega
  rcases exists_div (isBinary64_of_lt positive partSmall) (isBinary64_of_lt wholePositive small)
    (leading_of_lt positive partSmall) (leading_of_lt wholePositive small) near units
    (scaled_pos positive) (scaled_pos wholePositive) with
    ⟨result, exponent, resultPositive, divided, holds, bound⟩
  have quotient : (Quantity.ofCount part / Quantity.ofCount whole : Float).toModel.unpack =
      .finite .positive result exponent resultPositive := by
    change (Float.Model.pack (UnpackedFloat.div Format.binary64
      (Quantity.ofCount part : Float).toModel.unpack
      (Quantity.ofCount whole : Float).toModel.unpack)).unpack = _
    rw [unpack_ofCount positive partSmall, unpack_ofCount wholePositive small, divided]
    exact holds.unpack_pack resultPositive
  exact float_between quotient bound

end Counts

end Decimal

/-- The share that a part has of a whole lies between zero and one. -/
theorem Quantity.ratio_between {part whole : Nat} (within : part ≤ whole) (given : 0 < whole)
    (small : whole < 2 ^ 53) :
    (0.0 : Float) ≤ ratio part whole ∧ (ratio part whole : Float) ≤ 1.0 := by
  have common : 0 < part.gcd whole := Nat.gcd_pos_of_pos_right part given
  have fits : whole / part.gcd whole < 2 ^ 53 := (Nat.div_le_self _ _).trans_lt small
  rcases Nat.eq_zero_or_pos part with rfl | positive
  · rw [ratio, Nat.gcd_zero_left, Nat.zero_div, Nat.div_self given]
    decide +kernel
  · rcases Nat.lt_or_eq_of_le within with less | rfl
    · apply Decimal.ofCount_div_between _ _ fits
      · exact Nat.div_pos (Nat.gcd_le_left whole positive) common
      · exact Nat.div_lt_div_of_lt_of_dvd (Nat.gcd_dvd_right part whole) less
    · rw [ratio, Nat.gcd_self, Nat.div_self given]
      decide +kernel

end SentenceGraph
