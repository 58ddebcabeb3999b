import Mathlib.Algebra.Order.Field.Basic
import Mathlib.Data.Rat.Cast.Order
import Mathlib.Tactic.FieldSimp
import Mathlib.Tactic.Linarith
import Mathlib.Tactic.Ring
import RepoCollector.Number.Binary

/-! # Rounding to doubles

An operation on doubles computes the whole part of its exact result and how the result lies between
this number and the next one, shifts digits out until 53 are left, and rounds.  Of the digits that
are shifted out two bits are kept: the last one, and whether any one before it was set.  These two
are as good as the exact result (`RepoCollector.shiftRight_ofFraction`), so a rounded result lies
within half a unit of the exact one (`RepoCollector.exists_roundWithAccuracy`).
-/

namespace RepoCollector

open Float.Model Float.Model.UnpackedFloat

theorem abs_roundQuotient_sub_le (numerator : Nat) {denominator : Nat}
    (positive : 0 < denominator) :
    |(roundQuotient numerator denominator : ℚ) - numerator / denominator| ≤ 1 / 2 := by
  obtain ⟨low, high⟩ := roundQuotient_near numerator denominator positive
  have positive : (0 : ℚ) < denominator := Nat.cast_pos.mpr positive
  have low : (2 * numerator : ℚ) ≤ (2 * roundQuotient numerator denominator + 1) * denominator := by
    exact_mod_cast low
  have high : (2 * roundQuotient numerator denominator * denominator : ℚ) ≤
      2 * numerator + denominator := by
    exact_mod_cast high
  rw [abs_sub_le_iff, sub_le_iff_le_add, sub_le_iff_le_add, div_le_iff₀ positive,
    ← sub_le_iff_le_add', le_div_iff₀ positive]
  constructor <;> linarith

theorem le_roundQuotient (numerator denominator : Nat) :
    numerator / denominator ≤ roundQuotient numerator denominator ∧
      roundQuotient numerator denominator ≤ numerator / denominator + 1 := by
  unfold roundQuotient
  dsimp only
  split
  · omega
  · split <;> omega

/-- The whole part of a quotient, with the two bits that tell how the quotient lies behind it. -/
def ofFraction (numerator denominator : Nat) : ExtendedMantissa :=
  .ofMantissaAndAccuracy (numerator / denominator)
    (accuracyOfFraction (numerator % denominator) denominator)

theorem ofFraction_eq (numerator : Nat) {denominator : Nat} (positive : 0 < denominator) :
    ofFraction numerator denominator =
      ⟨numerator / denominator, decide (denominator ≤ 2 * (numerator % denominator)),
        decide (numerator % denominator ≠ 0 ∧ 2 * (numerator % denominator) ≠ denominator)⟩ := by
  unfold ofFraction accuracyOfFraction
  generalize numerator % denominator = rest
  split
  next none =>
    subst none
    simp [ExtendedMantissa.ofMantissaAndAccuracy, Nat.not_le_of_lt positive]
  next some =>
    rcases Nat.lt_trichotomy (2 * rest) denominator with below | middle | above
    · rw [Nat.compare_eq_lt.mpr below]
      simp [ExtendedMantissa.ofMantissaAndAccuracy, below, some, below.ne]
    · rw [Nat.compare_eq_eq.mpr middle]
      simp [ExtendedMantissa.ofMantissaAndAccuracy, middle]
    · rw [Nat.compare_eq_gt.mpr above]
      simp [ExtendedMantissa.ofMantissaAndAccuracy, above.le, some, above.ne']

theorem shiftRightOne_ofFraction (numerator : Nat) {denominator : Nat}
    (positive : 0 < denominator) :
    (ofFraction numerator denominator).shiftRightOne = ofFraction numerator (denominator * 2) := by
  rw [ofFraction_eq numerator positive, ofFraction_eq numerator (Nat.mul_pos positive Nat.two_pos),
    ExtendedMantissa.shiftRightOne, Nat.div_div_eq_div_mul, Nat.mod_mul]
  have small := Nat.mod_lt numerator positive
  generalize numerator % denominator = rest at small
  generalize numerator / denominator = whole
  -- the digit that is shifted out says in which half of the new unit the quotient lies
  obtain digit | digit := Nat.mod_two_eq_zero_or_one whole
  all_goals
    rw [ExtendedMantissa.mk.injEq, digit]
    refine ⟨rfl, ?_, ?_⟩
    · rw [Bool.eq_iff_iff, bne_iff_ne, decide_eq_true_eq]
      omega
    · rw [Bool.eq_iff_iff, Bool.or_eq_true, decide_eq_true_eq, decide_eq_true_eq, decide_eq_true_eq]
      omega

theorem shiftRight_ofFraction (numerator : Nat) {denominator : Nat} (positive : 0 < denominator)
    (count : Nat) :
    ofFraction numerator denominator >>> count =
      ofFraction numerator (denominator * 2 ^ count) := by
  induction count with
  | zero =>
      rw [Nat.pow_zero, Nat.mul_one]
      rfl
  | succ count ih =>
      change (ofFraction numerator denominator >>> count).shiftRightOne = _
      rw [ih, shiftRightOne_ofFraction numerator (Nat.mul_pos positive (Nat.two_pow_pos count)),
        Nat.mul_assoc, ← Nat.pow_succ]

theorem roundedMantissa_ofFraction (numerator : Nat) {denominator : Nat}
    (positive : 0 < denominator) :
    (ofFraction numerator denominator).roundedMantissa = roundQuotient numerator denominator := by
  unfold roundQuotient ofFraction accuracyOfFraction
  generalize numerator % denominator = rest
  generalize numerator / denominator = whole
  dsimp only
  split
  next none =>
    subst none
    rw [if_pos (by omega)]
    rfl
  next some =>
    rcases Nat.lt_trichotomy (2 * rest) denominator with below | middle | above
    · rw [Nat.compare_eq_lt.mpr below, if_pos below]
      rfl
    · rw [Nat.compare_eq_eq.mpr middle, if_neg (by omega), if_neg (by omega)]
      rfl
    · rw [Nat.compare_eq_gt.mpr above, if_neg (by omega), if_pos above]
      rfl

/-! ## Rounding to 53 digits -/

namespace Binary

/-- The number that the two parts stand for. -/
def value (b : Binary) : ℚ :=
  b.digits * 2 ^ b.exponent

/-- The parts of a double with all of its 53 digits, as all doubles are that are neither zero nor
very small nor too large. -/
structure IsNormal (b : Binary) : Prop where
  low : 2 ^ 52 ≤ b.digits
  high : b.digits < 2 ^ 53
  least : -1074 ≤ b.exponent
  greatest : b.exponent ≤ 971

theorem IsNormal.filled {b : Binary} (normal : b.IsNormal) : 0 < b.digits :=
  Nat.lt_of_lt_of_le (Nat.two_pow_pos 52) normal.low

theorem IsNormal.log2 {b : Binary} (normal : b.IsNormal) : b.digits.log2 = 52 :=
  (Nat.log2_eq_iff normal.filled.ne').mpr ⟨normal.low, normal.high⟩

end Binary

theorem targetExponent_eq {mantissa count : Nat} {exponent : Int}
    (size : mantissa.log2 = 52 + count) (least : -1074 ≤ exponent + count) :
    Format.binary64.targetExponent (totalExponent mantissa exponent) = exponent + count := by
  have width : Format.binary64.mantissaBits = 53 := rfl
  simp only [Format.targetExponent, totalExponent, size, width, Format.minExponent]
  omega

theorem shiftToTargetExponent_eq {mantissa count : Nat} {exponent : Int} (accuracy : Accuracy)
    (size : mantissa.log2 = 52 + count) (least : -1074 ≤ exponent + count) :
    shiftToTargetExponent .binary64 mantissa exponent accuracy =
      (ExtendedMantissa.ofMantissaAndAccuracy mantissa accuracy >>> count, exponent + count) := by
  have distance : exponent + count - exponent = count := by omega
  rw [shiftToTargetExponent, shiftToExponent, targetExponent_eq size least, distance,
    Int.toNat_natCast]

theorem normalize_natCast {mantissa : Nat} (some : 0 < mantissa) (exponent : Int) (zero : Sign) :
    UnpackedFloat.normalize .binary64 mantissa exponent zero =
      UnpackedFloat.round .binary64 .positive mantissa exponent := by
  rw [UnpackedFloat.normalize, Int.compare_eq_gt.mpr (Int.natCast_pos.mpr some)]
  rfl

/-- A number with digits enough is only rounded. -/
theorem round_of_le {mantissa count : Nat} {exponent : Int} (sign : Sign)
    (size : mantissa.log2 = 52 + count) (least : -1074 ≤ exponent + count) :
    UnpackedFloat.round .binary64 sign mantissa exponent =
      roundWithAccuracy .binary64 sign mantissa exponent .exact := by
  have none : (exponent - Format.binary64.targetExponent (totalExponent mantissa exponent)).toNat =
      0 := by
    rw [targetExponent_eq size least]
    omega
  rw [UnpackedFloat.round, decreaseExponent, none]
  dsimp only
  rw [Nat.shiftLeft_zero, Int.natCast_zero, Int.sub_zero]

theorem roundWithAccuracy_eq {mantissa : Nat} {exponent between last : Int} {accuracy : Accuracy}
    {shifted rounded : ExtendedMantissa} (sign : Sign)
    (first : shiftToTargetExponent .binary64 mantissa exponent accuracy = (shifted, between))
    (second : shiftToTargetExponent .binary64 shifted.roundedMantissa between .exact =
      (rounded, last)) (filled : 0 < rounded.mantissa) :
    roundWithAccuracy .binary64 sign mantissa exponent accuracy =
      .finite sign rounded.mantissa last filled := by
  unfold roundWithAccuracy
  rw [first]
  dsimp only
  rw [second]
  exact dif_neg filled.ne'

/-- A normal double is kept as it is. -/
theorem roundWithAccuracy_of_isNormal {b : Binary} (normal : b.IsNormal) (sign : Sign) :
    roundWithAccuracy .binary64 sign b.digits b.exponent .exact =
      .finite sign b.digits b.exponent normal.filled := by
  have size : b.digits.log2 = 52 + 0 := normal.log2
  have kept : shiftToTargetExponent .binary64 b.digits b.exponent .exact = (_, b.exponent + _) :=
    shiftToTargetExponent_eq .exact size (by simpa using normal.least)
  rw [Int.natCast_zero, Int.add_zero] at kept
  exact roundWithAccuracy_eq sign kept kept normal.filled

/-- Rounding up may carry into a 54th digit, which is shifted out again. -/
theorem exists_of_carry {digits : Nat} {exponent : Int} (low : 2 ^ 52 ≤ digits)
    (most : digits ≤ 2 ^ 53) (least : -1074 ≤ exponent) (greatest : exponent ≤ 970) :
    ∃ (b : Binary) (rounded : ExtendedMantissa), b.IsNormal ∧
      shiftToTargetExponent .binary64 digits exponent .exact = (rounded, b.exponent) ∧
      rounded.mantissa = b.digits ∧ b.value = digits * 2 ^ exponent := by
  obtain below | rfl := most.lt_or_eq
  · have size : digits.log2 = 52 + 0 :=
      (Nat.log2_eq_iff (Nat.lt_of_lt_of_le (Nat.two_pow_pos _) low).ne').mpr ⟨low, below⟩
    have shifted : shiftToTargetExponent .binary64 digits exponent .exact = (_, exponent + _) :=
      shiftToTargetExponent_eq .exact size (by simpa using least)
    rw [Int.natCast_zero, Int.add_zero] at shifted
    have most : exponent ≤ 971 := by omega
    exact ⟨⟨digits, exponent⟩, _, ⟨low, below, least, most⟩, shifted, rfl, rfl⟩
  · have size : (2 ^ 53).log2 = 52 + 1 := Nat.log2_two_pow
    have shifted : shiftToTargetExponent .binary64 (2 ^ 53) exponent .exact = (_, exponent + _) :=
      shiftToTargetExponent_eq .exact size (by simpa using Int.le_add_one least)
    have least : -1074 ≤ exponent + 1 := Int.le_add_one least
    have most : exponent + 1 ≤ 971 := by omega
    have fewer : 2 ^ 52 < 2 ^ 53 := Nat.pow_lt_pow_succ Nat.one_lt_two
    refine ⟨⟨2 ^ 52, exponent + 1⟩, _, ⟨le_rfl, fewer, least, most⟩, shifted, rfl, ?_⟩
    rw [Binary.value, zpow_add_one₀ two_ne_zero]
    push_cast
    ring

/-- **Rounding.**  The result has all of its digits, and lies within half a unit of the exact
quotient. -/
theorem exists_roundWithAccuracy {numerator denominator count : Nat} {exponent : Int} (sign : Sign)
    (low : 2 ^ (52 + count) ≤ numerator / denominator)
    (high : numerator / denominator < 2 ^ (53 + count)) (least : -1074 ≤ exponent + count)
    (greatest : exponent + count ≤ 970) :
    ∃ (b : Binary) (normal : b.IsNormal),
      roundWithAccuracy .binary64 sign (numerator / denominator) exponent
          (accuracyOfFraction (numerator % denominator) denominator) =
        .finite sign b.digits b.exponent normal.filled ∧
      |b.value - numerator / denominator * 2 ^ exponent| ≤ 1 / 2 * 2 ^ (exponent + count) := by
  have positive : 0 < denominator := by
    by_contra zero
    obtain rfl := Nat.eq_zero_of_not_pos zero
    rw [Nat.div_zero] at low
    exact absurd low (Nat.not_le_of_lt (Nat.two_pow_pos _))
  have unit := Nat.mul_pos positive (Nat.two_pow_pos count)
  have first : shiftToTargetExponent .binary64 (numerator / denominator) exponent
      (accuracyOfFraction (numerator % denominator) denominator) =
        (ofFraction numerator (denominator * 2 ^ count), exponent + count) := by
    have filled := (Nat.lt_of_lt_of_le (Nat.two_pow_pos _) low).ne'
    have size : (numerator / denominator).log2 = 52 + count := by
      refine (Nat.log2_eq_iff filled).mpr ⟨low, ?_⟩
      rwa [Nat.add_right_comm]
    rw [shiftToTargetExponent_eq _ size least, ← shiftRight_ofFraction numerator positive]
    rfl
  have rounded := roundedMantissa_ofFraction numerator unit
  have near := abs_roundQuotient_sub_le numerator unit
  obtain ⟨above, below⟩ := le_roundQuotient numerator (denominator * 2 ^ count)
  rw [← Nat.div_div_eq_div_mul] at above below
  generalize roundQuotient numerator (denominator * 2 ^ count) = digits at rounded above below near
  have low : 2 ^ 52 ≤ digits := by
    refine le_trans ?_ above
    rw [Nat.le_div_iff_mul_le (Nat.two_pow_pos count), ← Nat.pow_add]
    exact low
  have most : digits ≤ 2 ^ 53 := by
    refine below.trans ?_
    rw [Nat.succ_le_iff, Nat.div_lt_iff_lt_mul (Nat.two_pow_pos count), ← Nat.pow_add]
    exact high
  obtain ⟨b, last, normal, second, digits_eq, value⟩ :=
    exists_of_carry low most least greatest
  rw [← rounded] at second
  have filled : 0 < last.mantissa := digits_eq ▸ normal.filled
  refine ⟨b, normal, ?_, ?_⟩
  · rw [roundWithAccuracy_eq sign first second filled]
    congr
  · have scale : (0 : ℚ) < 2 ^ (exponent + count) := zpow_pos two_pos _
    have same : (numerator / denominator * 2 ^ exponent : ℚ) =
        numerator / (denominator * 2 ^ count : Nat) * 2 ^ (exponent + count) := by
      rw [zpow_add₀ two_ne_zero, zpow_natCast, Nat.cast_mul, Nat.cast_pow, Nat.cast_ofNat]
      field_simp
    rw [value, same, ← sub_mul, abs_mul, abs_of_pos scale]
    exact mul_le_mul_of_nonneg_right near scale.le

/-- A whole number is rounded in the same way. -/
theorem exists_round {mantissa count : Nat} {exponent : Int} (sign : Sign)
    (size : mantissa.log2 = 52 + count) (least : -1074 ≤ exponent + count)
    (greatest : exponent + count ≤ 970) :
    ∃ (b : Binary) (normal : b.IsNormal),
      UnpackedFloat.round .binary64 sign mantissa exponent =
        .finite sign b.digits b.exponent normal.filled ∧
      |b.value - mantissa * 2 ^ exponent| ≤ 1 / 2 * 2 ^ (exponent + count) := by
  have some : mantissa ≠ 0 := by
    rintro rfl
    rw [Nat.log2_zero] at size
    omega
  obtain ⟨low, high⟩ := (Nat.log2_eq_iff some).mp size
  rw [Nat.add_right_comm] at high
  rw [← Nat.div_one mantissa] at low high
  obtain ⟨b, normal, rounded, near⟩ := exists_roundWithAccuracy sign low high least greatest
  rw [Nat.div_one, Nat.mod_one] at rounded
  rw [Nat.cast_one, div_one] at near
  exact ⟨b, normal, (round_of_le sign size least).trans rounded, near⟩

end RepoCollector
