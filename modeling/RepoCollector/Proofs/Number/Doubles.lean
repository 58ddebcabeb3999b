import Mathlib
import RepoCollector.Proofs.Number.Rounding

/-! # Doubles and their parts

A double has a sign, digits and an exponent.  The digits and the exponent are the same whether they
are read from its bits or from the number that it is computed with
(`RepoCollector.Binary.ofFloat_of_unpack`), and a normal one is read as it was written
(`RepoCollector.Binary.IsNormal.unpack_pack`).  So doubles that compare as equal cannot be told
apart by them (`RepoCollector.ofFloat_eq_of_le`), although there are two zeros.
-/

namespace RepoCollector

open Float.Model Float.Model.UnpackedFloat

namespace Binary

/-- The bits of a double. -/
def bits (x : Float) : BitVec Format.binary64.numBits :=
  x.toModel.toBits.toBitVec

/-- The field of a double with all of its digits but the first one. -/
def fraction (x : Float) : BitVec 52 :=
  unpackMantissa (bits x)

/-- The field of a double that its exponent follows from. -/
def power (x : Float) : BitVec 11 :=
  unpackExponent (bits x)

theorem toNat_fraction (x : Float) : (fraction x).toNat = x.toBits.toNat % 2 ^ 52 := by
  simp [fraction, bits, unpackMantissa, Float.toBits]

theorem toNat_power (x : Float) : (power x).toNat = x.toBits.toNat / 2 ^ 52 % 2 ^ 11 := by
  simp [power, bits, unpackExponent, Float.toBits, Nat.shiftRight_eq_div_pow]

theorem ofFloat_eq (x : Float) : ofFloat x =
    if power x = 0#11 then ⟨(fraction x).toNat, -1074⟩
    else ⟨(fraction x).toNat + 2 ^ 52, (power x).toNat - 1075⟩ := by
  have zero : power x = 0#11 ↔ x.toBits.toNat / 2 ^ 52 % 2 ^ 11 = 0 := by
    rw [← toNat_power, ← BitVec.toNat_inj]
    rfl
  rw [toNat_fraction, toNat_power]
  simp only [zero]
  rfl

/-- The sign of a double. -/
def signOf (x : Float) : Sign :=
  Sign.ofBitVec (unpackSign (bits x))

theorem unpack_eq (x : Float) : x.toModel.unpack =
    if power x = -1#11 then if fraction x = 0#52 then .infinity (signOf x) else .notANumber
    else if power x = 0#11 then
      if filled : 0 < (fraction x).toNat then .finite (signOf x) (fraction x).toNat (-1074) filled
      else .zero (signOf x)
    else
      .finite (signOf x) ((fraction x).toNat + 2 ^ 52) ((power x).toNat - 1075)
        (Nat.add_pos_right _ (Nat.two_pow_pos 52)) := by
  have leading : (1#1 ++ fraction x).toNat = (fraction x).toNat + 2 ^ 52 := by
    rw [BitVec.toNat_append, ← Nat.shiftLeft_add_eq_or_of_lt (fraction x).isLt]
    simp [Nat.shiftLeft_eq, Nat.add_comm]
  change UnpackedFloat.unpack .binary64 (bits x) = _
  unfold UnpackedFloat.unpack
  change (if power x = -1#11 then if fraction x = 0#52 then _ else _ else
    if power x = 0#11 then if h : fraction x = 0#52 then _ else _ else _) = _
  split
  · rfl
  · split
    next small =>
      have exponent : ((power x).toNat : Int) - (1023 + 52) + 1 = -1074 := by
        rw [small]
        rfl
      split
      next zero =>
        rw [dif_neg (by rw [zero]; decide)]
        rfl
      next some =>
        have filled : 0 < (fraction x).toNat :=
          Nat.pos_of_ne_zero fun zero => some (BitVec.eq_of_toNat_eq zero)
        rw [dif_pos filled, UnpackedFloat.finite.injEq]
        exact ⟨rfl, rfl, exponent⟩
    next =>
      rw [UnpackedFloat.finite.injEq]
      exact ⟨rfl, leading, rfl⟩

/-- The digits and the exponent of what a double stands for. -/
def partsOf : UnpackedFloat → Option Binary
  | .finite _ digits exponent _ => some ⟨digits, exponent⟩
  | .zero _ => some ⟨0, -1074⟩
  | .infinity _ => some ⟨2 ^ 52, 972⟩
  | .notANumber => none

theorem ofFloat_of_unpack (x : Float) : ∀ parts ∈ partsOf x.toModel.unpack, ofFloat x = parts := by
  intro parts member
  rw [unpack_eq] at member
  rw [ofFloat_eq]
  by_cases full : power x = -1#11
  · have some : power x ≠ 0#11 := by
      rw [full]
      decide
    rw [if_pos full] at member
    rw [if_neg some, full]
    by_cases zero : fraction x = 0#52
    · rw [if_pos zero] at member
      rw [zero]
      exact Option.some.inj member
    · rw [if_neg zero] at member
      cases member
  · rw [if_neg full] at member
    by_cases small : power x = 0#11
    · rw [if_pos small] at member
      rw [if_pos small]
      by_cases filled : 0 < (fraction x).toNat
      · rw [dif_pos filled] at member
        exact Option.some.inj member
      · rw [dif_neg filled] at member
        rw [Nat.eq_zero_of_not_pos filled]
        exact Option.some.inj member
    · rw [if_neg small] at member
      rw [if_neg small]
      exact Option.some.inj member

/-- A normal double is read as it was written. -/
theorem IsNormal.unpack_pack {b : Binary} (normal : b.IsNormal) (sign : Sign) :
    (Float.Model.pack (.finite sign b.digits b.exponent normal.filled)).unpack =
      .finite sign b.digits b.exponent normal.filled := by
  have low := normal.low
  have high := normal.high
  have least := normal.least
  have greatest := normal.greatest
  let x : Float := .ofModel (.pack (.finite sign b.digits b.exponent normal.filled))
  have packed : bits x = packComponents .binary64 sign
      (BitVec.ofNat 11 (b.exponent + 1023 + 52).toNat) (BitVec.ofNat 52 b.digits) := by
    change UnpackedFloat.pack .binary64 (.finite sign b.digits b.exponent normal.filled) = _
    have fits : ¬2 ^ 11 ≤ (b.exponent + 1023 + 52).toNat + 1 := by omega
    unfold UnpackedFloat.pack
    dsimp only
    rw [normal.log2]
    exact (if_neg fits).trans (if_pos rfl)
  have sound : signOf x = sign := by
    rw [signOf, packed, unpackSign_packComponents, Sign.ofBitVec_toBitVec]
  have power : (power x).toNat = (b.exponent + 1075).toNat := by
    rw [Binary.power, packed, unpackExponent_packComponents, BitVec.toNat_ofNat]
    omega
  have fraction : (fraction x).toNat + 2 ^ 52 = b.digits := by
    rw [Binary.fraction, packed, unpackMantissa_packComponents, BitVec.toNat_ofNat]
    omega
  have some : Binary.power x ≠ 0#11 := by
    intro zero
    rw [zero] at power
    have positive : (b.exponent + 1075).toNat = 0 := power.symm
    omega
  have short : Binary.power x ≠ -1#11 := by
    intro full
    rw [full] at power
    have large : (b.exponent + 1075).toNat = 2047 := power.symm
    omega
  change x.toModel.unpack = _
  rw [unpack_eq, if_neg short, if_neg some, UnpackedFloat.finite.injEq]
  exact ⟨sound, fraction, by omega⟩

end Binary

/-! ## Comparing -/

theorem compare_swap (a b : UnpackedFloat) : b.compare a = (a.compare b).map Ordering.swap := by
  have finite (exponent other : Int) (digits others : Nat) :
      (compare other exponent).then (compare others digits) =
        ((compare exponent other).then (compare digits others)).swap := by
    rw [Ordering.swap_then, Int.compare_swap, Nat.compare_swap]
  rcases a with (_ | _) | _ | (_ | _) | ⟨_ | _, digits, exponent, _⟩ <;>
    rcases b with (_ | _) | _ | (_ | _) | ⟨_ | _, others, other, _⟩ <;>
    first
      | rfl
      | exact congrArg some (finite exponent other digits others)
      | exact congrArg (fun order => some order.swap) (finite exponent other digits others)

theorem le_iff {a b : Float} : a ≤ b ↔ a.toModel.unpack.compare b.toModel.unpack = some .lt ∨
    a.toModel.unpack.compare b.toModel.unpack = some .eq := by
  have any : a ≤ b ↔ (a.toModel.unpack.compare b.toModel.unpack).any (·.isLE) = true :=
    decide_eq_true_iff
  rw [any]
  cases a.toModel.unpack.compare b.toModel.unpack with
  | none => decide
  | some order => cases order <;> decide

theorem lt_iff {a b : Float} :
    a < b ↔ a.toModel.unpack.compare b.toModel.unpack = some .lt := by
  rw [← beq_iff_eq]
  exact decide_eq_true_iff

theorem not_lt_of_le {a b : Float} (le : a ≤ b) : ¬b < a := by
  rw [lt_iff, compare_swap]
  obtain less | equal := le_iff.mp le
  · rw [less]
    exact nofun
  · rw [equal]
    exact nofun

theorem not_lt_self (x : Float) : ¬x < x := by
  intro less
  have again := lt_iff.mp less
  rw [compare_swap, lt_iff.mp less] at again
  cases again

/-- What compares as equal has the same digits and the same exponent. -/
theorem exists_parts_of_compare {a b : UnpackedFloat} (equal : a.compare b = some .eq) :
    ∃ parts, Binary.partsOf a = some parts ∧ Binary.partsOf b = some parts := by
  have finite {sign : Sign} {exponent other : Int} {digits others : Nat} {filled : 0 < digits}
      {otherFilled : 0 < others}
      (same : (compare exponent other).then (compare digits others) = .eq) :
      ∃ parts, Binary.partsOf (.finite sign digits exponent filled) = some parts ∧
        Binary.partsOf (.finite sign others other otherFilled) = some parts := by
    obtain ⟨equal, equal'⟩ := Ordering.then_eq_eq.mp same
    obtain rfl := Int.compare_eq_eq.mp equal
    obtain rfl := Nat.compare_eq_eq.mp equal'
    exact ⟨_, rfl, rfl⟩
  rcases a with (_ | _) | _ | (_ | _) | ⟨_ | _, digits, exponent, _⟩ <;>
    rcases b with (_ | _) | _ | (_ | _) | ⟨_ | _, others, other, _⟩ <;>
    first
      | exact ⟨_, rfl, rfl⟩
      | exact finite (Option.some.inj equal)
      | exact finite (Ordering.swap_eq_eq.mp (Option.some.inj equal))
      | cases equal

/-- Doubles that compare as equal have the same parts. -/
theorem ofFloat_eq_of_le {a b : Float} (le : a ≤ b) (not_lt : ¬a < b) :
    Binary.ofFloat a = Binary.ofFloat b := by
  have equal := (le_iff.mp le).resolve_left (mt lt_iff.mpr not_lt)
  obtain ⟨parts, first, second⟩ := exists_parts_of_compare equal
  rw [Binary.ofFloat_of_unpack a parts first, Binary.ofFloat_of_unpack b parts second]

end RepoCollector
