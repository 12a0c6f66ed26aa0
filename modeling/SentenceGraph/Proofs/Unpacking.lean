import Mathlib.Tactic.NormNum
import Mathlib.Tactic.Positivity
import Mathlib.Tactic.Ring
import SentenceGraph.Quantity

/-!
# Binary numbers and their bits

The library takes a binary64 number apart by dividing its bits; the arithmetic of binary numbers
unpacks them, computes, rounds and packs the result. Both see the same sign, mantissa and exponent.

A number of the format is changed neither by packing it nor by rounding, however its parts are
scaled. So a whole number of the format is found exactly: one of at most 53 digits as it is, and a
larger one as the product of its digits and a power of two.
-/

namespace SentenceGraph.Decimal

open Float.Model Float.Model.UnpackedFloat

/-- The parts of an unpacked number. Zero has the exponent of the smallest numbers. -/
def Binary.ofUnpacked : UnpackedFloat → Binary
  | .notANumber => .notANumber
  | .infinity sign => .infinite (sign == .negative)
  | .zero sign => .finite (sign == .negative) 0 smallestExponent
  | .finite sign mantissa exponent _ => .finite (sign == .negative) mantissa exponent

theorem mantissaBits_binary64 : Format.binary64.mantissaBits = 53 :=
  rfl

theorem minExponent_binary64 : Format.binary64.minExponent = smallestExponent :=
  rfl

section Bits

variable (bits : BitVec Format.binary64.numBits)

theorem toNat_unpackMantissa : (unpackMantissa bits).toNat = bits.toNat % 2 ^ 52 := by
  simp [unpackMantissa, BitVec.extractLsb]

theorem toNat_unpackExponent : (unpackExponent bits).toNat = bits.toNat / 2 ^ 52 % 2 ^ 11 := by
  simp [unpackExponent, BitVec.extractLsb, Nat.shiftRight_eq_div_pow]

theorem toNat_unpackSign : (unpackSign bits).toNat = bits.toNat / 2 ^ 63 := by
  have bound : bits.toNat < 2 ^ 64 := bits.isLt
  unfold unpackSign
  simp [BitVec.extractLsb, Nat.shiftRight_eq_div_pow]
  omega

theorem ofBitVec_unpackSign :
    (Sign.ofBitVec (unpackSign bits) == .negative) = (bits.toNat / 2 ^ 63 == 1) := by
  rw [← toNat_unpackSign]
  generalize unpackSign bits = bit
  revert bit
  decide

theorem toNat_one_append {width : Nat} (fraction : BitVec width) :
    (1#1 ++ fraction).toNat = fraction.toNat + 2 ^ width := by
  rw [BitVec.toNat_append, ← Nat.shiftLeft_add_eq_or_of_lt fraction.isLt, Nat.shiftLeft_eq]
  simp
  omega

theorem toNat_packComponents (sign : Sign) (exponent : BitVec 11) (fraction : BitVec 52) :
    (packComponents Format.binary64 sign exponent fraction).toNat =
      (sign.toBitVec.toNat * 2 ^ 11 + exponent.toNat) * 2 ^ 52 + fraction.toNat := by
  rw [packComponents, BitVec.toNat_append, ← Nat.shiftLeft_add_eq_or_of_lt fraction.isLt,
    BitVec.toNat_append, ← Nat.shiftLeft_add_eq_or_of_lt exponent.isLt, Nat.shiftLeft_eq,
    Nat.shiftLeft_eq]

theorem unpackMantissa_pack (sign : Sign) (exponent : BitVec 11) (fraction : BitVec 52) :
    unpackMantissa (packComponents Format.binary64 sign exponent fraction) = fraction := by
  have bound := fraction.isLt
  apply BitVec.eq_of_toNat_eq
  rw [toNat_unpackMantissa, toNat_packComponents]
  omega

theorem unpackExponent_pack (sign : Sign) (exponent : BitVec 11) (fraction : BitVec 52) :
    unpackExponent (packComponents Format.binary64 sign exponent fraction) = exponent := by
  have bound := fraction.isLt
  have exponentBound := exponent.isLt
  apply BitVec.eq_of_toNat_eq
  rw [toNat_unpackExponent, toNat_packComponents]
  omega

theorem ofBitVec_unpackSign_pack (sign : Sign) (exponent : BitVec 11) (fraction : BitVec 52) :
    Sign.ofBitVec (unpackSign (packComponents Format.binary64 sign exponent fraction)) = sign := by
  have bound := fraction.isLt
  have exponentBound := exponent.isLt
  have same : unpackSign (packComponents Format.binary64 sign exponent fraction) =
      sign.toBitVec := by
    apply BitVec.eq_of_toNat_eq
    rw [toNat_unpackSign, toNat_packComponents]
    omega
  rw [same]
  cases sign with
  | negative => rfl
  | positive => rfl

end Bits

/-- Dividing the bits of a number gives the same parts as unpacking it. -/
theorem Binary.ofFloat_eq_ofUnpacked (value : Float) :
    Binary.ofFloat value = .ofUnpacked value.toModel.unpack := by
  let bits : BitVec Format.binary64.numBits := value.toModel.toBits.toBitVec
  have exponent := toNat_unpackExponent bits
  have fraction := toNat_unpackMantissa bits
  have sign := ofBitVec_unpackSign bits
  have leading := toNat_one_append (unpackMantissa bits)
  have allOnes : unpackExponent bits = -1#_ ↔ bits.toNat / 2 ^ 52 % 2 ^ 11 = 2047 := by
    rw [← exponent, ← BitVec.toNat_inj]
    simp
  have noOnes : unpackExponent bits = 0#_ ↔ bits.toNat / 2 ^ 52 % 2 ^ 11 = 0 := by
    rw [← exponent, ← BitVec.toNat_inj]
    simp
  have empty : unpackMantissa bits = 0#_ ↔ bits.toNat % 2 ^ 52 = 0 := by
    rw [← fraction, ← BitVec.toNat_inj]
    simp
  have same : value.toBits.toNat = bits.toNat := rfl
  change Binary.ofFloat value = .ofUnpacked (UnpackedFloat.unpack Format.binary64 bits)
  unfold Binary.ofFloat UnpackedFloat.unpack
  -- The parts are taken in each case, so that the two sides differ in the conditions only.
  rw [apply_ite ofUnpacked, apply_ite ofUnpacked, apply_ite ofUnpacked, apply_dite ofUnpacked]
  dsimp only [ofUnpacked]
  simp only [same, twoTo, Nat.pow_eq, allOnes, noOnes, empty, beq_iff_eq]
  split_ifs with infinite zeroFraction zeroExponent zeroFraction
  · simp [sign]
  · rfl
  · simpa [sign] using zeroFraction
  · simp [sign, exponent, zeroExponent, fraction, smallestExponent, Format.exponentBias]
  · simp [sign, leading, fraction, exponent, smallestExponent, Format.exponentBias]
    omega

/-- The finite numbers of the format: all but the smallest ones have 53 digits. -/
structure IsBinary64 (mantissa : Nat) (exponent : Int) : Prop where
  width : mantissa < 2 ^ 53
  least : smallestExponent ≤ exponent
  greatest : exponent ≤ 971
  leading : 2 ^ 52 ≤ mantissa ∨ exponent = smallestExponent

theorem Binary.isBinary64_of_ofFloat {value : Float} {negative : Bool} {mantissa : Nat}
    {exponent : Int}
    (finite : Binary.ofFloat value = .finite negative mantissa exponent) :
    IsBinary64 mantissa exponent := by
  unfold Binary.ofFloat at finite
  simp only [twoTo, Nat.pow_eq, beq_iff_eq] at finite
  split_ifs at finite with infinite zeroFraction subnormal
  · cases finite
    constructor
    · omega
    · omega
    · simp [smallestExponent]
    · exact Or.inr rfl
  · cases finite
    constructor
    · omega
    · omega
    · simp only [smallestExponent]
      omega
    · omega

/-- What is rounded is shifted to its exponent before, and once more for the carry after. -/
theorem roundWithAccuracy_of_shifted {digits mantissa : Nat} {exponent cutExponent last : Int}
    {accuracy : Accuracy} {cut : ExtendedMantissa}
    (shifted : shiftToTargetExponent Format.binary64 digits exponent accuracy = (cut, cutExponent))
    (carried : shiftToTargetExponent Format.binary64 cut.roundedMantissa cutExponent .exact =
      (⟨mantissa, false, false⟩, last))
    (positive : 0 < mantissa) (sign : Sign) :
    roundWithAccuracy Format.binary64 sign digits exponent accuracy =
      .finite sign mantissa last positive := by
  unfold roundWithAccuracy
  rw [shifted]
  dsimp only
  rw [carried]
  exact dif_neg positive.ne'

theorem mul_finite {mantissa other : Nat} {exponent otherExponent : Int} {sign otherSign : Sign}
    (positive : 0 < mantissa) (otherPositive : 0 < other) :
    UnpackedFloat.mul Format.binary64 (.finite sign mantissa exponent positive)
        (.finite otherSign other otherExponent otherPositive) =
      roundWithAccuracy Format.binary64 (sign * otherSign) (mantissa * other)
        (exponent + otherExponent) .exact :=
  rfl

namespace IsBinary64

variable {mantissa : Nat} {exponent : Int} {sign : Sign}

theorem log2_cases (holds : IsBinary64 mantissa exponent) (positive : 0 < mantissa) :
    (mantissa.log2 = 52 ∧ 2 ^ 52 ≤ mantissa) ∨
      (mantissa.log2 < 52 ∧ mantissa < 2 ^ 52 ∧ exponent = smallestExponent) := by
  by_cases normal : 2 ^ 52 ≤ mantissa
  · exact Or.inl ⟨(Nat.log2_eq_iff positive.ne').mpr ⟨normal, holds.width⟩, normal⟩
  · have small := not_le.mp normal
    exact Or.inr ⟨(Nat.log2_lt positive.ne').mpr small, small, holds.leading.resolve_left normal⟩

/-- Packing a number of the format loses nothing. -/
theorem unpack_pack (holds : IsBinary64 mantissa exponent) (positive : 0 < mantissa) :
    (Float.Model.pack (.finite sign mantissa exponent positive)).unpack =
      .finite sign mantissa exponent positive := by
  have least := holds.least
  have greatest := holds.greatest
  have width := holds.width
  simp only [smallestExponent] at least
  let biased := BitVec.ofNat 11 (exponent + 1023 + 52).toNat
  have packed : UnpackedFloat.pack Format.binary64 (.finite sign mantissa exponent positive) =
      if 2 ^ 11 ≤ (exponent + 1023 + 52).toNat + 1 then packedInfinity Format.binary64 sign
      else if mantissa.log2 + 1 = 53 then
        packComponents Format.binary64 sign biased (BitVec.ofNat 52 mantissa)
      else packComponents Format.binary64 sign 0#11 (BitVec.ofNat 52 mantissa) := rfl
  change UnpackedFloat.unpack Format.binary64 (UnpackedFloat.pack Format.binary64 _) = _
  rw [packed, if_neg (by omega)]
  rcases holds.log2_cases positive with ⟨digits, normal⟩ | ⟨digits, small, smallest⟩
  · have toNat_biased : biased.toNat = (exponent + 1023 + 52).toNat := by
      simp only [biased, BitVec.toNat_ofNat]
      omega
    have notOnes : biased ≠ -1#11 := by
      rw [Ne, ← BitVec.toNat_inj, toNat_biased]
      simp
      omega
    have notZero : biased ≠ 0#11 := by
      rw [Ne, ← BitVec.toNat_inj, toNat_biased]
      simp
      omega
    have leading : (1#1 ++ BitVec.ofNat 52 mantissa).toNat = mantissa := by
      rw [toNat_one_append, BitVec.toNat_ofNat]
      omega
    have unbiased : (biased.toNat : Int) - (1023 + (52 : Nat)) = exponent := by
      omega
    rw [if_pos (by omega)]
    unfold UnpackedFloat.unpack
    dsimp only
    rw [if_neg (by rwa [unpackExponent_pack]), if_neg (by rwa [unpackExponent_pack]),
      UnpackedFloat.finite.injEq, ofBitVec_unpackSign_pack, unpackMantissa_pack,
      unpackExponent_pack]
    exact ⟨rfl, leading, unbiased⟩
  · have fraction : (BitVec.ofNat 52 mantissa).toNat = mantissa := by
      rw [BitVec.toNat_ofNat]
      omega
    have notZero : BitVec.ofNat 52 mantissa ≠ 0#52 := by
      rw [Ne, ← BitVec.toNat_inj, fraction]
      simp
      omega
    rw [if_neg (by omega)]
    unfold UnpackedFloat.unpack
    dsimp only
    rw [if_neg (by rw [unpackExponent_pack]; decide), if_pos (unpackExponent_pack _ _ _),
      dif_neg (by rwa [unpackMantissa_pack]), UnpackedFloat.finite.injEq,
      ofBitVec_unpackSign_pack, unpackMantissa_pack, unpackExponent_pack]
    exact ⟨rfl, fraction, smallest.symm⟩

theorem targetExponent_scaled (holds : IsBinary64 mantissa exponent) (positive : 0 < mantissa)
    (places : Nat) :
    Format.binary64.targetExponent (totalExponent (mantissa * 2 ^ places) (exponent - places)) =
      exponent := by
  have digits : (mantissa * 2 ^ places).log2 = mantissa.log2 + places := by
    induction places with
    | zero => simp
    | succ places inductionHypothesis =>
        have nonzero : mantissa * 2 ^ places ≠ 0 := by positivity
        rw [pow_succ', mul_left_comm, Nat.log2_two_mul nonzero, inductionHypothesis, add_assoc]
  have least := holds.least
  simp only [Format.targetExponent, totalExponent, digits, mantissaBits_binary64,
    minExponent_binary64]
  rcases holds.log2_cases positive with ⟨width, _⟩ | ⟨width, _, same⟩
  · omega
  · omega

theorem shiftRight_scaled (mantissa places : Nat) :
    (⟨mantissa * 2 ^ places, false, false⟩ : ExtendedMantissa) >>> places =
      ⟨mantissa, false, false⟩ := by
  change Nat.repeat ExtendedMantissa.shiftRightOne places _ = _
  induction places generalizing mantissa with
  | zero => simp [Nat.repeat]
  | succ places inductionHypothesis =>
      rw [Nat.repeat, pow_succ', ← mul_assoc, inductionHypothesis]
      simp [ExtendedMantissa.shiftRightOne]

theorem shiftToTargetExponent_scaled (holds : IsBinary64 mantissa exponent)
    (positive : 0 < mantissa) (places : Nat) :
    shiftToTargetExponent Format.binary64 (mantissa * 2 ^ places) (exponent - places) .exact =
      (⟨mantissa, false, false⟩, exponent) := by
  simp only [shiftToTargetExponent, shiftToExponent, holds.targetExponent_scaled positive places,
    ExtendedMantissa.ofMantissaAndAccuracy, sub_sub_cancel, Int.toNat_natCast, shiftRight_scaled,
    sub_add_cancel]

theorem shiftToTargetExponent_self (holds : IsBinary64 mantissa exponent)
    (positive : 0 < mantissa) :
    shiftToTargetExponent Format.binary64 mantissa exponent .exact =
      (⟨mantissa, false, false⟩, exponent) := by
  simpa using holds.shiftToTargetExponent_scaled positive 0

/-- Rounding leaves a number of the format as it is. -/
theorem roundWithAccuracy_self (holds : IsBinary64 mantissa exponent) (positive : 0 < mantissa)
    (sign : Sign) :
    roundWithAccuracy Format.binary64 sign mantissa exponent .exact =
      .finite sign mantissa exponent positive :=
  roundWithAccuracy_of_shifted (holds.shiftToTargetExponent_self positive)
    (holds.shiftToTargetExponent_self positive) positive sign

/-- It does so however the parts of the number are scaled. -/
theorem roundWithAccuracy_scaled (holds : IsBinary64 mantissa exponent) (positive : 0 < mantissa)
    (places : Nat) (sign : Sign) :
    roundWithAccuracy Format.binary64 sign (mantissa * 2 ^ places) (exponent - places) .exact =
      .finite sign mantissa exponent positive :=
  roundWithAccuracy_of_shifted (holds.shiftToTargetExponent_scaled positive places)
    (holds.shiftToTargetExponent_self positive) positive sign

end IsBinary64

section Whole

variable {number : Nat}

/-- The places by which a number is moved to the left so that it has all digits of the format. -/
def sparePlaces (number : Nat) : Nat :=
  52 - number.log2

theorem scaled_pos (positive : 0 < number) : 0 < number * 2 ^ sparePlaces number := by
  positivity

theorem isBinary64_of_lt (positive : 0 < number) (small : number < 2 ^ 53) :
    IsBinary64 (number * 2 ^ sparePlaces number) (-sparePlaces number) := by
  have digits : number.log2 < 53 := (Nat.log2_lt positive.ne').mpr small
  have split : number.log2 + sparePlaces number = 52 := by
    unfold sparePlaces
    omega
  constructor
  · calc number * 2 ^ sparePlaces number
      _ < 2 ^ (number.log2 + 1) * 2 ^ sparePlaces number := by
        apply Nat.mul_lt_mul_of_pos_right Nat.lt_log2_self
        positivity
      _ = 2 ^ 53 := by
        rw [← pow_add, add_right_comm, split]
  · simp only [smallestExponent]
    omega
  · omega
  · left
    calc 2 ^ 52
      _ = 2 ^ number.log2 * 2 ^ sparePlaces number := by
        rw [← pow_add, split]
      _ ≤ number * 2 ^ sparePlaces number := by
        apply Nat.mul_le_mul_right
        exact Nat.log2_self_le positive.ne'

theorem ofNat_of_lt (positive : 0 < number) (small : number < 2 ^ 53) :
    UnpackedFloat.ofNat Format.binary64 number =
      .finite .positive (number * 2 ^ sparePlaces number) (-sparePlaces number)
        (scaled_pos positive) := by
  have digits : number.log2 < 53 := (Nat.log2_lt positive.ne').mpr small
  have greater : compare (number : Int) 0 = .gt := by
    rw [compare_gt_iff_gt]
    omega
  have target : Format.binary64.targetExponent (totalExponent number 0) = -sparePlaces number := by
    simp only [Format.targetExponent, totalExponent, sparePlaces, mantissaBits_binary64,
      minExponent_binary64, smallestExponent]
    omega
  have path : UnpackedFloat.ofNat Format.binary64 number =
      roundWithAccuracy Format.binary64 .positive (number * 2 ^ sparePlaces number)
        (-sparePlaces number) .exact := by
    simp only [UnpackedFloat.ofNat, UnpackedFloat.ofInt, UnpackedFloat.normalize, greater,
      UnpackedFloat.round, decreaseExponent, Int.toNat_natCast, target, zero_sub, neg_neg,
      Nat.shiftLeft_eq]
  rw [path]
  exact (isBinary64_of_lt positive small).roundWithAccuracy_self (scaled_pos positive) .positive

theorem unpack_ofScientific_of_lt (positive : 0 < number) (small : number < 2 ^ 53) :
    (Float.ofScientific number false 0).toModel.unpack =
      .finite .positive (number * 2 ^ sparePlaces number) (-sparePlaces number)
        (scaled_pos positive) := by
  have holds := isBinary64_of_lt positive small
  have path : Float.ofScientific number false 0 =
      number.toUInt64.toFloat * Float.exactlyRepresentablePowersOfTen[0] := by
    rw [Float.ofScientific, dif_pos ⟨small, by omega⟩]
    rfl
  have inRange : number.toUInt64.toNat = number := by
    simp
    omega
  have left : number.toUInt64.toFloat.toModel.unpack =
      .finite .positive (number * 2 ^ sparePlaces number) (-sparePlaces number)
        (scaled_pos positive) := by
    change (Float.Model.pack (UnpackedFloat.ofNat Format.binary64 number.toUInt64.toNat)).unpack = _
    rw [inRange, ofNat_of_lt positive small]
    exact holds.unpack_pack (scaled_pos positive)
  have one : (Float.exactlyRepresentablePowersOfTen[0]).toModel.unpack =
      .finite .positive (2 ^ 52) (-52) (by positivity) := by
    rfl
  rw [path]
  change (Float.Model.pack (UnpackedFloat.mul Format.binary64 number.toUInt64.toFloat.toModel.unpack
    (Float.exactlyRepresentablePowersOfTen[0]).toModel.unpack)).unpack = _
  rw [left, one]
  change (Float.Model.pack (roundWithAccuracy Format.binary64 .positive _
    (-(sparePlaces number : Int) - (52 : Nat)) .exact)).unpack = _
  rw [holds.roundWithAccuracy_scaled (scaled_pos positive)]
  exact holds.unpack_pack (scaled_pos positive)

theorem unpack_ofScientific_scaled {mantissa places : Nat} (holds : IsBinary64 mantissa places)
    (positive : 0 < mantissa) (large : 2 ^ 53 ≤ mantissa * 2 ^ places) :
    (Float.ofScientific (mantissa * 2 ^ places) false 0).toModel.unpack =
      .finite .positive mantissa places positive := by
  have nonzero : mantissa * 2 ^ places ≠ 0 := by positivity
  have path : Float.ofScientific (mantissa * 2 ^ places) false 0 =
      Float.ofModel (Float.Model.ofScientific (mantissa * 2 ^ places) 0) := by
    rw [Float.ofScientific, dif_neg (by omega)]
    rfl
  have product : UnpackedFloat.ofScientific Format.binary64 (mantissa * 2 ^ places) 0 =
      roundWithAccuracy Format.binary64 .positive (mantissa * 2 ^ (places + 53))
        (places - (places + 53 : Nat)) .exact := by
    unfold UnpackedFloat.ofScientific
    rw [dif_neg nonzero, if_neg (by decide), if_neg (by simp), if_pos (by omega)]
    -- The powers of two of the two factors are gathered in the first.
    rw [mul_finite, mantissaBits_binary64, Nat.shiftLeft_eq, mul_assoc mantissa, ← pow_add,
      Int.toNat_zero, pow_zero, mul_one, Nat.cast_add, sub_add_cancel_left, add_zero]
    rfl
  rw [path]
  change (Float.Model.pack (UnpackedFloat.ofScientific Format.binary64 _ 0)).unpack = _
  rw [product, holds.roundWithAccuracy_scaled positive]
  exact holds.unpack_pack positive

/-- How often the smallest positive number of the format goes into a number. -/
def unitsOf (mantissa : Nat) (exponent : Int) : Nat :=
  mantissa * 2 ^ (exponent - smallestExponent).toNat

/-- How often the smallest positive number of the format goes into one. It is too large to be
computed where it is not needed. -/
@[irreducible]
def unitsOfOne : Nat :=
  2 ^ 1074

theorem unitsOfOne_eq : unitsOfOne = 2 ^ 1074 := by
  with_unfolding_all rfl

theorem unitsOfOne_pos : 0 < unitsOfOne := by
  rw [unitsOfOne_eq]
  positivity

theorem unitsOf_natCast (mantissa places : Nat) :
    unitsOf mantissa places = mantissa * 2 ^ places * unitsOfOne := by
  have exponents : ((places : Int) - smallestExponent).toNat = places + 1074 := by
    simp only [smallestExponent]
    omega
  rw [unitsOf, unitsOfOne_eq, exponents, pow_add, mul_assoc]

theorem unitsOf_scaled {places : Nat} (mantissa : Nat) (few : places ≤ 1074) :
    unitsOf (mantissa * 2 ^ places) (-places) = mantissa * unitsOfOne := by
  have exponents : (-(places : Int) - smallestExponent).toNat + places = 1074 := by
    simp only [smallestExponent]
    omega
  rw [unitsOf, unitsOfOne_eq, mul_assoc, ← pow_add, add_comm, exponents]

/-- Three binary digits are less than a decimal one. -/
theorem digitCount_le_of_lt {digits : Nat} (positive : 0 < digits)
    (less : number < 2 ^ (3 * digits)) : digitCount number ≤ digits := by
  apply (Nat.length_toDigits_le_iff (by omega) positive).mpr
  calc number
    _ < (2 ^ 3) ^ digits := by
      rw [← pow_mul]
      exact less
    _ ≤ 10 ^ digits := by
      apply Nat.pow_le_pow_left
      omega

/-- A natural number that the format has. -/
def IsExact (number : Nat) : Prop :=
  number < 2 ^ 53 ∨
    ∃ mantissa places : Nat, IsBinary64 mantissa places ∧ number = mantissa * 2 ^ places

namespace IsExact

theorem lt (exact : IsExact number) : number < 2 ^ 53 * 2 ^ 971 := by
  rcases exact with small | ⟨mantissa, places, holds, rfl⟩
  · exact small.trans_le (Nat.le_mul_of_pos_right _ (by positivity))
  · have width := holds.width
    have greatest := holds.greatest
    calc mantissa * 2 ^ places
      _ < 2 ^ 53 * 2 ^ places := Nat.mul_lt_mul_of_pos_right width (by positivity)
      _ ≤ 2 ^ 53 * 2 ^ 971 := by
        apply Nat.mul_le_mul_left
        apply Nat.pow_le_pow_right
        · omega
        · omega

theorem digitCount_le (exact : IsExact number) : digitCount number ≤ 400 := by
  apply digitCount_le_of_lt
  · omega
  · apply exact.lt.trans_le
    rw [← pow_add]
    apply Nat.pow_le_pow_right
    · omega
    · omega

theorem unpack_ofScientific (exact : IsExact number) (positive : 0 < number) :
    ∃ mantissa exponent mantissaPositive, IsBinary64 mantissa exponent ∧
      unitsOf mantissa exponent = number * unitsOfOne ∧
      (Float.ofScientific number false 0).toModel.unpack =
        .finite .positive mantissa exponent mantissaPositive := by
  by_cases small : number < 2 ^ 53
  · refine ⟨_, _, _, isBinary64_of_lt positive small, ?_, unpack_ofScientific_of_lt positive small⟩
    apply unitsOf_scaled
    unfold sparePlaces
    omega
  · rcases exact.resolve_left small with ⟨mantissa, places, holds, rfl⟩
    have mantissaPositive := Nat.pos_of_mul_pos_right positive
    exact ⟨mantissa, places, _, holds, unitsOf_natCast mantissa places,
      unpack_ofScientific_scaled holds mantissaPositive (by omega)⟩

end IsExact

end Whole

/-- The quantity nearest to a whole number is that number if the format has it. -/
theorem floatOfInt?_of_isExact {number : Int} (exact : IsExact number.natAbs) :
    ∃ nearest mantissa exponent, floatOfInt? number = some nearest ∧
      Binary.ofFloat nearest = .finite (number < 0) mantissa exponent ∧
      unitsOf mantissa exponent = number.natAbs * unitsOfOne := by
  by_cases zero : number = 0
  · subst zero
    have found : Binary.ofFloat (0.0 : Float) = .finite false 0 smallestExponent := by
      decide +kernel
    refine ⟨0.0, 0, smallestExponent, ?_, ?_, ?_⟩
    · simp [floatOfInt?, floatOfDecimal, found]
    · simpa using found
    · simp [unitsOf]
  · have positive : 0 < number.natAbs := by omega
    rcases exact.unpack_ofScientific positive with
      ⟨mantissa, exponent, mantissaPositive, holds, units, unpacked⟩
    have digits := exact.digitCount_le
    have notTiny : (number.natAbs == 0 ||
        decide ((digitCount number.natAbs : Int) + 0 < -400)) = false := by
      simp
      omega
    have notHuge : ¬400 < (digitCount number.natAbs : Int) + 0 := by omega
    have magnitude : floatOfDecimal (number < 0) number.natAbs 0 =
        if number < 0 then -Float.ofScientific number.natAbs false 0
        else Float.ofScientific number.natAbs false 0 := by
      simp only [floatOfDecimal, notTiny, notHuge, if_false, Bool.false_eq_true,
        lt_self_iff_false, decide_false, Int.natAbs_zero, decide_eq_true_eq]
    have finite : Binary.ofFloat (floatOfDecimal (number < 0) number.natAbs 0) =
        .finite (number < 0) mantissa exponent := by
      rw [magnitude, Binary.ofFloat_eq_ofUnpacked]
      by_cases negative : number < 0
      · rw [if_pos negative]
        have negated : (UnpackedFloat.finite .positive mantissa exponent mantissaPositive).neg =
            .finite .negative mantissa exponent mantissaPositive := rfl
        change Binary.ofUnpacked (Float.Model.pack
          (Float.ofScientific number.natAbs false 0).toModel.unpack.neg).unpack = _
        rw [unpacked, negated, holds.unpack_pack mantissaPositive, decide_eq_true negative]
        rfl
      · rw [if_neg negative, unpacked, decide_eq_false negative]
        rfl
    refine ⟨_, mantissa, exponent, ?_, finite, units⟩
    simp [floatOfInt?, finite]

end SentenceGraph.Decimal
